-- SUMMARY: What pieces of code do to a script, and what an engine has learnt in a history.
import KeyBridge.Engine.Recording
import KeyBridge.Proofs.Words

/-!
# Replays

A name is one word, so a line that assigns a variable is cut at the first sign of an assignment and
nothing is trimmed from its parts (`Line.read_assignment`). Code never takes a function away: a
script has the functions whose definitions it was given (`mem_functions_absorb`), and an engine
those that it learnt since it was reset (`functionExists_operate`).
-/

namespace KeyBridge

/-! ## Names -/

namespace Text

theorem inRanges_apart {rs ss : List (Nat × Nat)}
    (h : (rs.all fun r => ss.all fun s => r.2 < s.1 || s.2 < r.1) = true) {n : Nat}
    (hn : inRanges n rs = true) : inRanges n ss = false := by
  obtain ⟨r, hr, hle, hge⟩ := (inRanges_eq_true_iff n rs).1 hn
  rw [Bool.eq_false_iff, ne_eq, inRanges_eq_true_iff]
  rintro ⟨s, hs, hle', hge'⟩
  have hapart := List.all_eq_true.1 (List.all_eq_true.1 h r hr) s hs
  rw [Bool.or_eq_true, decide_eq_true_eq, decide_eq_true_eq] at hapart
  omega

/-- A character of a word is not blank. -/
theorem isBlank_of_isWordChar {c : Char} (h : isWordChar c = true) : isBlank c = false := by
  have hASCII : ([(48, 57), (65, 90), (95, 95), (97, 122)].all fun r : Nat × Nat =>
      blankRanges.all fun s => r.2 < s.1 || s.2 < r.1) = true := by decide
  have hrest : (alphanumericRanges.all fun r =>
      blankRanges.all fun s => r.2 < s.1 || s.2 < r.1) = true := by decide +kernel
  rw [isWordChar, isAlphanumeric, Bool.or_eq_true, Bool.or_eq_true, Bool.and_eq_true] at h
  rcases h with (hletter | ⟨-, hletter⟩) | hunderscore
  · refine inRanges_apart hASCII ?_
    have hcode : ((decide (c.val ≥ 65 ∧ c.val ≤ 90) || (c.val ≥ 97 && c.val ≤ 122))
        || (c.val ≥ 48 && c.val ≤ 57)) = true := hletter
    simp only [Bool.or_eq_true, decide_eq_true_eq, Bool.and_eq_true] at hcode
    rw [inRanges_eq_true_iff]
    rcases hcode with (⟨hle, hge⟩ | ⟨hle, hge⟩) | ⟨hle, hge⟩
    · exact ⟨(65, 90), by simp, hle, hge⟩
    · exact ⟨(97, 122), by simp, hle, hge⟩
    · exact ⟨(48, 57), by simp, hle, hge⟩
  · exact inRanges_apart hrest hletter
  · rw [of_decide_eq_true hunderscore]
    decide

/-! ## Trimming -/

section

variable {c : Char} {cs : List Char}

theorem trimStart_eq (h : ∀ c, cs.head? = some c → isBlank c = false) : trimStart cs = cs := by
  cases cs with
  | nil => rfl
  | cons c cs => simp [trimStart, h c rfl]

theorem trimEnd_eq (h : ∀ c, cs.getLast? = some c → isBlank c = false) : trimEnd cs = cs := by
  have hreverse : trimStart cs.reverse = cs.reverse :=
    trimStart_eq fun c hc => h c (List.head?_reverse ▸ hc)
  rw [trimEnd, ← trimStart, hreverse, List.reverse_reverse]

/-- Nothing is trimmed from text with no blank character at an end. -/
theorem trimBoth_eq (hfirst : ∀ c, cs.head? = some c → isBlank c = false)
    (hlast : ∀ c, cs.getLast? = some c → isBlank c = false) : trimBoth cs = cs := by
  rw [trimBoth, trimStart_eq hfirst, trimEnd_eq hlast]

theorem trimEnd_concat_blank (hc : isBlank c = true) (cs : List Char) :
    trimEnd (cs ++ [c]) = trimEnd cs := by
  simp [trimEnd, hc]

theorem trimStart_cons_blank (hc : isBlank c = true) (cs : List Char) :
    trimStart (c :: cs) = trimStart cs := by
  simp [trimStart, hc]

theorem trimEnd_append_blank {after : List Char} (hafter : allBlank after = true)
    (cs : List Char) : trimEnd (cs ++ after) = trimEnd cs := by
  have hall : ∀ c ∈ after.reverse, isBlank c = true := fun c hc =>
    List.all_eq_true.1 hafter c (List.mem_reverse.1 hc)
  rw [trimEnd, trimEnd, List.reverse_append, List.dropWhile_append_of_pos hall]

/-- Blank characters around a text are trimmed with its own. -/
theorem trimBoth_surrounded {before after : List Char} (hbefore : allBlank before = true)
    (hafter : allBlank after = true) (cs : List Char) :
    trimBoth (before ++ cs ++ after) = trimBoth cs := by
  have hstart : trimStart (before ++ cs ++ after) = trimStart (cs ++ after) := by
    rw [trimStart, List.append_assoc,
      List.dropWhile_append_of_pos (List.all_eq_true.1 hbefore), trimStart]
  rw [trimBoth, hstart, trimBoth, trimStart, trimStart, List.dropWhile_append]
  split
  · -- the text is blank, so all of it goes
    rename_i hempty
    have hgone : (after ++ []).dropWhile isBlank = [] :=
      List.dropWhile_append_of_pos (List.all_eq_true.1 hafter)
    rw [List.append_nil] at hgone
    rw [hgone, List.isEmpty_iff.1 hempty]
  · exact trimEnd_append_blank hafter _

/-! ## Splitting -/

/-- A text is cut where a separator stands whose first character is not there before. -/
theorem splitOnce_append (hc : c ∉ cs) (more after : List Char) :
    splitOnce (c :: more) (cs ++ (c :: more) ++ after) = some (cs, after) := by
  induction cs with
  | nil => simp [splitOnce]
  | cons d cs ih =>
    obtain ⟨hd, hcs⟩ : c ≠ d ∧ c ∉ cs := by simpa using hc
    rw [List.cons_append, List.cons_append, splitOnce, ih hcs]
    simp [hd]

/-- Only text that ends with a double quote loses quotes. -/
theorem unwrapQuotes_eq (h : cs.getLast? ≠ some '"') : unwrapQuotes cs = cs := by
  cases cs with
  | nil => rfl
  | cons c cs =>
    have hopen : ¬(c = '"' ∧ cs.getLast? = some '"') := by
      rintro ⟨-, hlast⟩
      exact h (by simp [List.getLast?_cons, hlast])
    rw [unwrapQuotes, if_neg hopen]

end

theorem lines_ne_nil {c : Char} {cs : List Char} : lines (c :: cs) ≠ [] := by
  induction cs generalizing c with
  | nil =>
    rw [lines]
    split <;> simp
  | cons d cs ih =>
    rw [lines]
    split
    · simp
    split
    · exact ih
    · split <;> simp

/-- What follows the end of a line is split on its own. -/
theorem lines_append (cs ds : List Char) :
    lines (cs ++ '\n' :: ds) = lines (cs ++ ['\n']) ++ lines ds := by
  induction cs with
  | nil => simp
  | cons c cs ih =>
    have hhead : (cs ++ '\n' :: ds).head? = (cs ++ ['\n']).head? := by cases cs <;> rfl
    rw [List.cons_append, List.cons_append, lines, lines, hhead, ih]
    split
    · rfl
    split
    · rfl
    · obtain ⟨l, ls, hlines⟩ : ∃ l ls, lines (cs ++ ['\n']) = l :: ls := by
        refine List.exists_cons_of_ne_nil ?_
        cases cs <;> exact lines_ne_nil
      simp [hlines]

end Text

section

variable {w : List Char}

theorem isName_iff : isName w = true ↔ w ≠ [] ∧ ∀ c ∈ w, Text.isWordChar c = true := by
  simp [isName]

theorem not_mem_of_isName (hw : isName w = true) {c : Char} (hc : Text.isWordChar c = false) :
    c ∉ w := by
  intro hmem
  rw [(isName_iff.1 hw).2 c hmem] at hc
  cases hc

theorem isBlank_of_isName (hw : isName w = true) {c : Char} (hc : c ∈ w) :
    Text.isBlank c = false :=
  Text.isBlank_of_isWordChar ((isName_iff.1 hw).2 c hc)

theorem isLine_of_isName (hw : isName w = true) : Text.IsLine w := by
  intro c hc
  refine ⟨?_, ?_⟩
  all_goals
    rintro rfl
    exact not_mem_of_isName hw (by decide) hc

end

/-! ## Lines -/

/-- The line that assigns a value to a variable does so, unless the value is in quotes. -/
theorem Line.read_assignment {name value : String} (hname : isName name.toList = true)
    (hvalue : value.toList ≠ [])
    (hfirst : ∀ c, value.toList.head? = some c → Text.isBlank c = false)
    (hlast : ∀ c, value.toList.getLast? = some c → Text.isBlank c = false ∧ c ≠ '"') :
    Line.read (Statement.assign name value).toList = .assign name value := by
  have hline : (Statement.assign name value).toList
      = name.toList ++ [' '] ++ [':', '='] ++ ' ' :: value.toList := by
    simp [Statement.assign]
  have hends : Text.trimBoth (Statement.assign name value).toList
      = (Statement.assign name value).toList := by
    refine Text.trimBoth_eq (fun c hc => isBlank_of_isName hname ?_) fun c hc => (hlast c ?_).1
    · obtain ⟨d, w, hw⟩ := List.exists_cons_of_ne_nil (isName_iff.1 hname).1
      rw [hline, hw] at hc
      cases hc
      simp [hw]
    · obtain ⟨d, w, hw⟩ := List.exists_cons_of_ne_nil hvalue
      rw [hline, hw] at hc
      rw [hw]
      simpa using hc
  have htarget : Text.trimBoth (name.toList ++ [' ']) = name.toList := by
    have hstart : Text.trimStart (name.toList ++ [' ']) = name.toList ++ [' '] := by
      refine Text.trimStart_eq fun c hc => isBlank_of_isName hname ?_
      obtain ⟨d, w, hw⟩ := List.exists_cons_of_ne_nil (isName_iff.1 hname).1
      rw [hw] at hc ⊢
      cases hc
      exact List.mem_cons_self
    rw [Text.trimBoth, hstart, Text.trimEnd_concat_blank (by decide)]
    exact Text.trimEnd_eq fun c hc => isBlank_of_isName hname (List.mem_of_getLast? hc)
  have hinside : Text.trimBoth (' ' :: value.toList) = value.toList := by
    rw [Text.trimBoth, Text.trimStart_cons_blank (by decide)]
    exact Text.trimBoth_eq hfirst fun c hc => (hlast c hc).1
  have hplain : Text.unwrapQuotes value.toList = value.toList :=
    Text.unwrapQuotes_eq fun hquote => (hlast _ hquote).2 rfl
  have hcolon : ':' ∉ name.toList ++ [' '] := by
    simpa using not_mem_of_isName hname (by decide)
  rw [Line.read, hends, hline, Line.ofTrimmed, Text.splitOnce_append hcolon]
  simp only [Line.assignment, htarget, hname, hinside, hplain, String.ofList_toList]
  rfl

/-! ## Code -/

namespace ScriptState

/-- Whether a piece of code has a line that opens the definition of a function. -/
def hasDefinition (code function : String) : Bool :=
  ((Text.lines code.toList).map Line.read).contains (.define function)

variable {s : ScriptState} {function : String}

theorem mem_functions_step (s : ScriptState) (function : String) (l : Line) :
    function ∈ (s.step l).functions ↔ function ∈ s.functions ∨ l = .define function := by
  cases l with
  | define name =>
    rw [step, ScriptState.define]
    split
    · rename_i hknown
      rw [Line.define.injEq]
      refine ⟨.inl, ?_⟩
      rintro (hmem | rfl)
      · exact hmem
      · exact hknown
    · simp [eq_comm]
  | _ => simp [step, assign]

theorem mem_functions_foldl (s : ScriptState) (function : String) (lines : List Line) :
    function ∈ (lines.foldl step s).functions
      ↔ function ∈ s.functions ∨ .define function ∈ lines := by
  induction lines generalizing s with
  | nil => simp
  | cons l ls ih =>
    rw [List.foldl_cons, ih, mem_functions_step, List.mem_cons, or_assoc, eq_comm]

/-- Code adds the functions whose definitions it has, and takes none away. -/
theorem mem_functions_absorb (s : ScriptState) (code function : String) :
    function ∈ (s.absorb code).functions
      ↔ function ∈ s.functions ∨ hasDefinition code function = true := by
  rw [hasDefinition, List.contains_iff_mem, absorb]
  exact mem_functions_foldl s function _

theorem hasDefinition_append {code : String} {cs : List Char} (hcode : code.toList = cs ++ ['\n'])
    (more function : String) : hasDefinition (code ++ more) function
      = (hasDefinition code function || hasDefinition more function) := by
  have htext : (code ++ more).toList = cs ++ '\n' :: more.toList := by simp [hcode]
  rw [hasDefinition, htext, Text.lines_append, ← hcode, List.map_append, List.contains_append]
  rfl

/-- The last line of a piece of code acts on what the lines before have made of the script. -/
theorem absorb_line (s : ScriptState) {code line : String} {cs : List Char}
    (hcode : code.toList = cs ++ ['\n']) (hline : Text.IsLine line.toList) :
    s.absorb (code ++ line ++ "\n") = (s.absorb code).step (Line.read line.toList) := by
  have htext : (code ++ line ++ "\n").toList = cs ++ '\n' :: (line.toList ++ ['\n']) := by
    simp [hcode]
  rw [absorb, htext, Text.lines_append, ← hcode, Text.lines_append_newline hline, List.map_append,
    List.foldl_append]
  rfl

end ScriptState

/-! ## Engines -/

namespace RecordingEngine

/-- One thing that is done to an engine. -/
inductive Operation where
  | reject (yes : Bool)
  | reset
  | terminate
  | execute (code : String)
  | load (code : String) (option : LoadOption)
  | setVariable (name value : String)
  | callFunction (name : String) (args : List String)
  | define (name result : String)

/-- The engine after an operation. -/
def operate (e : RecordingEngine) : Operation → RecordingEngine
  | .reject yes => e.reject yes
  | .reset => (ScriptEngine.reset e).2
  | .terminate => (ScriptEngine.terminate e).2
  | .execute code => (ScriptEngine.execute e code).2
  | .load code option => (ScriptEngine.load e code option).2
  | .setVariable name value => (ScriptEngine.setVariable e name value).2
  | .callFunction name args => (ScriptEngine.callFunction e name args).2
  | .define name result => e.define name result

/-- Whether an operation makes an engine forget its script. -/
def Operation.isReset : Operation → Bool
  | .reset => true
  | _ => false

/-- Whether an engine gets a function in an operation: by hand, or from code that it accepts. -/
def learns (e : RecordingEngine) (function : String) : Operation → Bool
  | .execute code | .load code _ => !e.rejecting && ScriptState.hasDefinition code function
  | .define name _ => name = function
  | _ => false

theorem fst_accept (e : RecordingEngine) (code : String) : (e.accept code).1 = !e.rejecting := by
  rw [accept]
  cases e.rejecting <;> rfl

theorem snd_accept (e : RecordingEngine) (code : String) : (e.accept code).2
    = { e with script := if e.rejecting then e.script else e.script.absorb code } := by
  rw [accept]
  split <;> rfl

/-- Code that is added is logged, and acts unless the engine rejects it. -/
theorem operate_load (e : RecordingEngine) (code : String) (option : LoadOption) :
    e.operate (.load code option) = { e with
      loaded := e.loaded ++ [(code, option)]
      script := if e.rejecting then e.script else e.script.absorb code } :=
  snd_accept _ _

theorem getVariable_eq (e : RecordingEngine) (name : String) :
    ScriptEngine.getVariable e name = (e.script.values.get? name).getD "" := rfl

theorem functionExists_iff {e : RecordingEngine} {function : String} :
    ScriptEngine.functionExists e function = true ↔ function ∈ e.script.functions :=
  List.contains_iff_mem

theorem functionExists_accept (e : RecordingEngine) (code function : String) :
    ScriptEngine.functionExists (e.accept code).2 function = true
      ↔ ScriptEngine.functionExists e function = true
        ∨ (!e.rejecting && ScriptState.hasDefinition code function) = true := by
  rw [functionExists_iff, functionExists_iff, accept]
  split
  · rename_i hrejecting
    simp [hrejecting]
  · rename_i hrejecting
    simp [hrejecting, ScriptState.mem_functions_absorb]

/-- After an operation an engine has the functions that it had and that it learns, unless it is
reset. -/
theorem functionExists_operate (e : RecordingEngine) (function : String) (o : Operation) :
    ScriptEngine.functionExists (e.operate o) function = true ↔ o.isReset = false
      ∧ (ScriptEngine.functionExists e function = true ∨ e.learns function o = true) := by
  cases o with
  | reset => exact ⟨nofun, nofun⟩
  | execute code =>
    exact (functionExists_accept { e with executed := e.executed ++ [code] } code function).trans
      (and_iff_right rfl).symm
  | load code option =>
    exact (functionExists_accept { e with loaded := e.loaded ++ [(code, option)] } code
      function).trans (and_iff_right rfl).symm
  | setVariable name value =>
    rw [operate, functionExists_iff, functionExists_iff]
    simp only [ScriptEngine.setVariable]
    split <;> simp [Operation.isReset, learns, ScriptState.assign]
  | define name result =>
    have hadded := ScriptState.mem_functions_step e.script function (.define name)
    rw [Line.define.injEq] at hadded
    rw [operate, functionExists_iff, functionExists_iff, learns, decide_eq_true_eq]
    exact hadded.trans (and_iff_right rfl).symm
  | reject yes => simp [operate, functionExists_iff, Operation.isReset, learns, reject]
  | terminate =>
    simp [operate, functionExists_iff, Operation.isReset, learns, ScriptEngine.terminate]
  | callFunction name args =>
    simp [operate, functionExists_iff, Operation.isReset, learns, ScriptEngine.callFunction]

end RecordingEngine

end KeyBridge
