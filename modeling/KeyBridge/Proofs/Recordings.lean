-- SUMMARY: What a recording engine holds after a history: a replay of what it accepted.
import KeyBridge.Proofs.Outline
import KeyBridge.Proofs.Replays
import Mathlib.Data.List.Induction

/-!
# Recordings

A piece of code acts through the texts between its line feeds, one at a time (`absorb_eq`), so it
makes no difference in which pieces code comes. An engine has the variables and functions that the
code and the assignments it accepted since its last reset make of a script without any
(`engine_replays`). What it was given stands in its logs, accepted or not.
-/

namespace KeyBridge

/-! ## Code -/

namespace Text

theorem lines_eq_singleton {cs : List Char} (hfeed : '\n' ∉ cs) (hne : cs ≠ []) :
    lines cs = [cs] := by
  induction cs with
  | nil => exact absurd rfl hne
  | cons c cs ih =>
    obtain ⟨hc, hrest⟩ : '\n' ≠ c ∧ '\n' ∉ cs := by simpa using hfeed
    have hhead : cs.head? ≠ some '\n' := fun h => hrest (List.mem_of_head? h)
    rw [lines, if_neg (Ne.symm hc), if_neg (fun h => hhead h.2)]
    by_cases hempty : cs = []
    · rw [hempty, lines_nil]
    · rw [ih hrest hempty]

theorem splitOn_append_front {cs : List Char} (hcs : '\n' ∉ cs) (ds : List Char) :
    ∃ line more, (cs ++ ds).splitOn '\n' = (cs ++ line) :: more := by
  induction cs with
  | nil => exact List.exists_cons_of_ne_nil (List.splitOn_ne_nil '\n' ds)
  | cons c cs ih =>
    obtain ⟨hc, hcs⟩ : '\n' ≠ c ∧ '\n' ∉ cs := by simpa using hcs
    obtain ⟨line, more, hsplit⟩ := ih hcs
    refine ⟨line, more, ?_⟩
    rw [List.cons_append, List.splitOn_cons_eq_if_modifyHead, if_neg (by simpa using hc.symm),
      hsplit]
    rfl

/-- Nothing is trimmed from a text up to its last visible character. -/
theorem trimEnd_append_front {cs : List Char} {c : Char} (hc : isBlank c = false)
    (ds : List Char) : trimEnd (cs ++ [c] ++ ds) = cs ++ [c] ++ trimEnd ds := by
  rw [trimEnd, List.reverse_append, List.dropWhile_append, trimEnd]
  split
  · rename_i hempty
    simp [List.isEmpty_iff.1 hempty, hc]
  · simp

end Text

namespace ScriptState

/-- What a piece of code has to say, from one line feed to the next. -/
def linesOf (code : String) : List Line := (code.toList.splitOn '\n').map Line.read

/-- The script after lines of code. -/
def play (s : ScriptState) (lines : List Line) : ScriptState := lines.foldl step s

theorem play_append (s : ScriptState) (lines more : List Line) :
    s.play (lines ++ more) = (s.play lines).play more :=
  List.foldl_append

theorem read_dropReturn (line : List Char) : Line.read (Text.dropReturn line) = Line.read line := by
  rw [Text.dropReturn]
  split
  · rename_i hreturn
    obtain ⟨front, rfl⟩ := List.getLast?_eq_some_iff.1 hreturn
    have htrim : Text.trimBoth ([] ++ front ++ ['\r']) = Text.trimBoth front :=
      Text.trimBoth_surrounded rfl (by decide) front
    rw [List.nil_append] at htrim
    rw [List.dropLast_concat, Line.read, Line.read, htrim]
  · rfl

/-- The end of a line takes a carriage return along, and there may be no last line, but neither makes
a difference to what lines do. -/
theorem play_lines (cs : List Char) (s : ScriptState) :
    s.play ((Text.lines cs).map Line.read) = s.play ((cs.splitOn '\n').map Line.read) := by
  by_cases hfeed : '\n' ∈ cs
  · obtain ⟨line, rest, rfl, hline⟩ := List.eq_append_cons_of_mem hfeed
    rw [Text.lines_append_feed hline, List.splitOn_append_cons_self_of_not_mem hline, List.map_cons,
      List.map_cons, read_dropReturn]
    have hshorter : rest.length < (line ++ '\n' :: rest).length := by
      rw [List.length_append, List.length_cons]
      omega
    exact play_lines rest (s.step (Line.read line))
  · rw [List.splitOn_eq_singleton hfeed]
    by_cases hempty : cs = []
    · subst hempty
      rfl
    · rw [Text.lines_eq_singleton hfeed hempty]
termination_by cs.length

variable (s : ScriptState)

theorem absorb_eq (code : String) : s.absorb code = s.play (linesOf code) := play_lines code.toList s

theorem linesOf_join (code more : String) :
    linesOf (code ++ "\n" ++ more) = linesOf code ++ linesOf more := by
  have htext : (code ++ "\n" ++ more).toList = code.toList ++ '\n' :: more.toList := by simp
  rw [linesOf, htext, List.splitOn_append_cons_self, List.map_append]
  rfl

/-- Pieces of code do one after the other what they do joined by line feeds. -/
theorem absorb_intercalate (pieces : List String) :
    s.absorb ("\n".intercalate pieces) = pieces.foldl absorb s := by
  induction pieces generalizing s with
  | nil => rfl
  | cons code pieces ih =>
    cases pieces with
    | nil => rw [String.intercalate_singleton, List.foldl_cons, List.foldl_nil]
    | cons more pieces =>
      rw [String.intercalate_cons_cons, absorb_eq, linesOf_join, play_append, ← absorb_eq,
        ← absorb_eq, ih]
      rfl

/-! ## Variables -/

/-- The value that a line gives to a variable. -/
def assigned? (name : String) : Line → Option String
  | .assign target value => if target = name then some value else none
  | _ => none

/-- The value that lines give to a variable last. -/
def lastAssigned? (name : String) (lines : List Line) : Option String :=
  (lines.filterMap (assigned? name)).getLast?

theorem get?_step (name : String) (line : Line) :
    (s.step line).values.get? name = (assigned? name line).or (s.values.get? name) := by
  cases line with
  | assign target value =>
    rw [step, assign, Table.get?_insert, assigned?]
    by_cases htarget : target = name
    · rw [if_pos htarget, if_pos htarget.symm]
      rfl
    · rw [if_neg htarget, if_neg (Ne.symm htarget)]
      rfl
  | define function =>
    rw [step, define]
    split <;> rfl
  | other => rfl

theorem get?_play (name : String) (lines : List Line) :
    (s.play lines).values.get? name = (lastAssigned? name lines).or (s.values.get? name) := by
  induction lines generalizing s with
  | nil => rfl
  | cons line lines ih =>
    have hrest : (s.play (line :: lines)).values.get? name
        = ((s.step line).play lines).values.get? name := rfl
    rw [hrest, ih, get?_step, lastAssigned?, lastAssigned?, ← Option.or_assoc]
    congr 1
    cases hline : assigned? name line with
    | none => simp [hline]
    | some value =>
      rw [List.filterMap_cons_some hline, List.getLast?_cons]
      cases (lines.filterMap (assigned? name)).getLast? <;> rfl

end ScriptState

/-! ## Evaluation -/

namespace ScriptEngine

/-- The code that evaluates an expression. -/
def evaluation (expression : String) : String := evalVariable ++ ":=" ++ expression

/-- The value of an expression: the one that its evaluation gives last to the variable for it. -/
def valueOf (expression : String) : String :=
  (ScriptState.lastAssigned? evalVariable (ScriptState.linesOf (evaluation expression))).getD ""

end ScriptEngine

/-- The first line of an evaluation assigns the variable for it. -/
theorem read_evaluation (line : List Char) : ∃ value,
    Line.read ((ScriptEngine.evalVariable ++ ":=").toList ++ line)
      = .assign ScriptEngine.evalVariable value := by
  have hfront : (ScriptEngine.evalVariable ++ ":=").toList
      = ScriptEngine.evalVariable.toList ++ [':'] ++ ['='] := by decide +kernel
  have hname : Text.trimBoth ScriptEngine.evalVariable.toList = ScriptEngine.evalVariable.toList
      ∧ isName ScriptEngine.evalVariable.toList = true
      ∧ ':' ∉ ScriptEngine.evalVariable.toList := by decide +kernel
  have hstart : Text.trimStart (ScriptEngine.evalVariable.toList ++ [':'] ++ ['='] ++ line)
      = ScriptEngine.evalVariable.toList ++ [':'] ++ ['='] ++ line :=
    Text.trimStart_eq fun c hc => by
      cases hc
      decide
  have hsplit := Text.splitOnce_append hname.2.2 ['='] (Text.trimEnd line)
  refine ⟨String.ofList (Text.unwrapQuotes (Text.trimBoth (Text.trimEnd line))), ?_⟩
  rw [Line.read, hfront, Text.trimBoth, hstart, Text.trimEnd_append_front (by decide),
    Line.ofTrimmed, List.append_assoc ScriptEngine.evalVariable.toList, List.singleton_append,
    hsplit]
  simp only [Line.assignment, hname.1, hname.2.1, String.ofList_toList]
  rfl

theorem exists_lastAssigned? (expression : String) : ∃ value,
    ScriptState.lastAssigned? ScriptEngine.evalVariable
      (ScriptState.linesOf (ScriptEngine.evaluation expression)) = some value := by
  have hfeed : '\n' ∉ (ScriptEngine.evalVariable ++ ":=").toList := by decide +kernel
  obtain ⟨line, more, hsplit⟩ := Text.splitOn_append_front hfeed expression.toList
  obtain ⟨value, hread⟩ := read_evaluation line
  have hassigned : ScriptState.assigned? ScriptEngine.evalVariable
      (.assign ScriptEngine.evalVariable value) = some value := by
    rw [ScriptState.assigned?, if_pos rfl]
  rw [ScriptState.linesOf, ScriptEngine.evaluation, String.toList_append, hsplit, List.map_cons,
    hread, ScriptState.lastAssigned?, List.filterMap_cons_some hassigned, List.getLast?_cons]
  exact ⟨_, rfl⟩

/-! ## Uses of engines -/

namespace RecordingEngine

/-- One thing that is done with an engine, by itself or as all engines do it. -/
inductive Use where
  | operate (o : Operation)
  | evaluate (expression : String)
  | suspend
  | unsuspend

namespace Use

/-- The code that a use runs. -/
def executed? : Use → Option String
  | .operate (.execute code) => some code
  | .evaluate expression => some (ScriptEngine.evaluation expression)
  | .suspend => some "Suspend, On"
  | .unsuspend => some "Suspend, Off"
  | _ => none

/-- The code that a use adds to the script, and how. -/
def loaded? : Use → Option (String × LoadOption)
  | .operate (.load code option) => some (code, option)
  | _ => none

/-- The call of a function that a use makes. -/
def called? : Use → Option (String × List String)
  | .operate (.callFunction name args) => some (name, args)
  | _ => none

/-- The code that a use hands to the engine, to run or to add it. -/
def code? (u : Use) : Option String := u.executed?.or (u.loaded?.map Prod.fst)

/-- What a use does to the script when it is accepted. -/
def lines : Use → List Line
  | .operate (.setVariable name value) => [.assign name value]
  | .operate (.define name _) => [.define name]
  | u => (u.code?.map ScriptState.linesOf).getD []

/-- Whether an engine can reject a use: code and assignments. -/
def isRejectable : Use → Bool
  | .operate (.setVariable ..) => true
  | u => u.code?.isSome

/-- Whether a use makes an engine forget its script. -/
def isReset : Use → Bool
  | .operate o => o.isReset
  | _ => false

/-- Whether the engine rejects from a use on, if the use says so. -/
def toggle? : Use → Option Bool
  | .operate (.reject yes) => some yes
  | _ => none

end Use

/-- The engine after a use. -/
def use (e : RecordingEngine) : Use → RecordingEngine
  | .operate o => e.operate o
  | .evaluate expression => (ScriptEngine.evaluate e expression).2
  | .suspend => (ScriptEngine.suspend e).2
  | .unsuspend => (ScriptEngine.unsuspend e).2

/-- The engine after a history of uses. -/
def useAll (e : RecordingEngine) (history : List Use) : RecordingEngine := history.foldl use e

/-- Whether the engine says that it accepts a use, if it says anything about that. -/
def answer? (e : RecordingEngine) : Use → Option Bool
  | .operate (.execute code) => some (ScriptEngine.execute e code).1
  | .operate (.load code option) => some (ScriptEngine.load e code option).1
  | .operate (.setVariable name value) => some (ScriptEngine.setVariable e name value).1
  | .operate .reset => some (ScriptEngine.reset e).1
  | .operate .terminate => some (ScriptEngine.terminate e).1
  | .suspend => some (ScriptEngine.suspend e).1
  | .unsuspend => some (ScriptEngine.unsuspend e).1
  | _ => none

/-- What one use makes of an engine. -/
structure Advances (e : RecordingEngine) (u : Use) (e' : RecordingEngine) : Prop where
  executed : e'.executed = e.executed ++ u.executed?.toList
  loaded : e'.loaded = e.loaded ++ u.loaded?.toList
  calls : e'.calls = e.calls ++ u.called?.toList
  rejecting : e'.rejecting = u.toggle?.getD e.rejecting
  script : e'.script = if u.isReset then .empty
    else if u.isRejectable && e.rejecting then e.script else e.script.play u.lines

theorem advances_execute (e : RecordingEngine) {u : Use} {code : String}
    (hcode : u.executed? = some code) (hothers : u.loaded? = none ∧ u.called? = none)
    (hrest : u.toggle? = none ∧ u.isReset = false ∧ u.isRejectable = true)
    (hlines : u.lines = ScriptState.linesOf code) :
    e.Advances u (ScriptEngine.execute e code).2 := by
  have haccept := snd_accept { e with executed := e.executed ++ [code] } code
  have hengine : (ScriptEngine.execute e code).2 = _ := haccept
  rw [hengine]
  refine ⟨?_, ?_, ?_, ?_, ?_⟩
  · rw [hcode]
    rfl
  · simp [hothers.1]
  · simp [hothers.2]
  · simp [hrest.1]
  · simp [hrest.2.1, hrest.2.2, hlines, ScriptState.absorb_eq]

/-- A use adds to the logs, may make the engine reject or accept, and acts on the script unless it is
rejected. -/
theorem advances_use (e : RecordingEngine) (u : Use) : e.Advances u (e.use u) := by
  have hnone {α : Type} (l : List α) : l = l ++ Option.toList none := (List.append_nil l).symm
  cases u with
  | operate o =>
    cases o with
    | execute code => exact e.advances_execute rfl ⟨rfl, rfl⟩ ⟨rfl, rfl, rfl⟩ rfl
    | load code option =>
      have hengine := e.operate_load code option
      refine ⟨?_, ?_, ?_, ?_, ?_⟩
      all_goals rw [use, hengine]
      · exact hnone _
      · rfl
      · exact hnone _
      · rfl
      · rw [ScriptState.absorb_eq]
        rfl
    | setVariable name value =>
      have hengine : e.operate (.setVariable name value)
          = { e with script := if e.rejecting then e.script else e.script.assign name value } := by
        rw [operate]
        simp only [ScriptEngine.setVariable]
        split <;> rfl
      refine ⟨?_, ?_, ?_, ?_, ?_⟩
      all_goals rw [use, hengine]
      · exact hnone _
      · exact hnone _
      · exact hnone _
      · rfl
      · rfl
    | callFunction name args => exact ⟨hnone _, hnone _, rfl, rfl, rfl⟩
    | _ => exact ⟨hnone _, hnone _, hnone _, rfl, rfl⟩
  | evaluate expression => exact e.advances_execute rfl ⟨rfl, rfl⟩ ⟨rfl, rfl, rfl⟩ rfl
  | suspend => exact e.advances_execute rfl ⟨rfl, rfl⟩ ⟨rfl, rfl, rfl⟩ rfl
  | unsuspend => exact e.advances_execute rfl ⟨rfl, rfl⟩ ⟨rfl, rfl, rfl⟩ rfl

/-! ## Histories -/

/-- The uses of a history that an engine accepts, if it rejects at first or not. -/
def accepted (rejecting : Bool) : List Use → List Use
  | [] => []
  | u :: rest =>
    let later := accepted (u.toggle?.getD rejecting) rest
    if u.isRejectable && rejecting then later else u :: later

/-- The uses of a history after its last reset. -/
def sinceReset (history : List Use) : List Use :=
  (history.reverse.takeWhile fun u => !u.isReset).reverse

/-- What the last use of a history that says so makes of rejecting. -/
def rejectingAfter (rejecting : Bool) (history : List Use) : Bool :=
  (history.filterMap Use.toggle?).getLast?.getD rejecting

theorem rejectingAfter_cons (rejecting : Bool) (u : Use) (history : List Use) :
    rejectingAfter rejecting (u :: history)
      = rejectingAfter (u.toggle?.getD rejecting) history := by
  cases htoggle : u.toggle? with
  | none => rw [rejectingAfter, List.filterMap_cons_none htoggle, rejectingAfter, Option.getD_none]
  | some yes =>
    rw [rejectingAfter, List.filterMap_cons_some htoggle, List.getLast?_cons, rejectingAfter,
      Option.getD_some, Option.getD_some]

theorem accepted_concat (rejecting : Bool) (history : List Use) (u : Use) :
    accepted rejecting (history ++ [u]) = accepted rejecting history
      ++ if u.isRejectable && rejectingAfter rejecting history then [] else [u] := by
  induction history generalizing rejecting with
  | nil => rfl
  | cons first history ih =>
    rw [List.cons_append, accepted, accepted, ih, rejectingAfter_cons]
    split
    · rfl
    · rw [List.cons_append]

theorem sinceReset_concat (history : List Use) (u : Use) :
    sinceReset (history ++ [u]) = if u.isReset then [] else sinceReset history ++ [u] := by
  rw [sinceReset, List.reverse_concat, List.takeWhile_cons]
  cases u.isReset
  · simp [sinceReset]
  · rfl

theorem useAll_concat (e : RecordingEngine) (history : List Use) (u : Use) :
    e.useAll (history ++ [u]) = (e.useAll history).use u := by
  rw [useAll, List.foldl_append]
  rfl

theorem rejecting_useAll (history : List Use) :
    (fresh.useAll history).rejecting = rejectingAfter false history := by
  induction history using List.reverseRecOn with
  | nil => rfl
  | append_singleton history u ih =>
    rw [useAll_concat, ((fresh.useAll history).advances_use u).rejecting, ih, rejectingAfter,
      rejectingAfter, List.filterMap_append]
    cases htoggle : u.toggle? with
    | none => simp [htoggle]
    | some yes => simp [htoggle]

/-- A reset is accepted. -/
theorem not_isRejectable_of_isReset {u : Use} (h : u.isReset = true) : u.isRejectable = false := by
  cases u with
  | operate o => cases o <;> first | rfl | cases h
  | _ => cases h

theorem script_useAll (history : List Use) : (fresh.useAll history).script
    = ScriptState.empty.play ((sinceReset (accepted false history)).flatMap Use.lines) := by
  induction history using List.reverseRecOn with
  | nil => rfl
  | append_singleton history u ih =>
    have hscript := ((fresh.useAll history).advances_use u).script
    rw [rejecting_useAll] at hscript
    rw [useAll_concat, hscript, accepted_concat]
    by_cases hreset : u.isReset = true
    · rw [if_pos hreset, not_isRejectable_of_isReset hreset, Bool.false_and,
        if_neg Bool.false_ne_true, sinceReset_concat, if_pos hreset]
      rfl
    rw [if_neg hreset]
    split
    · rw [List.append_nil, ih]
    · rw [sinceReset_concat, if_neg hreset, List.flatMap_append, ScriptState.play_append, ih,
        List.flatMap_singleton]

/-- A log that every use adds to holds what all of them added, in order. -/
theorem log_useAll {α : Type} {log : RecordingEngine → List α} {add : Use → Option α}
    (hfresh : log fresh = []) (hlog : ∀ e u, log (e.use u) = log e ++ (add u).toList)
    (history : List Use) : log (fresh.useAll history) = history.filterMap add := by
  induction history using List.reverseRecOn with
  | nil => exact hfresh
  | append_singleton history u ih =>
    rw [useAll_concat, hlog, ih, List.filterMap_append]
    cases hadd : add u <;> simp [hadd]

/-- An engine says that it accepts a use unless it rejects. -/
theorem answer_eq (e : RecordingEngine) {u : Use} {ok : Bool} (h : e.answer? u = some ok) :
    ok = !(u.isRejectable && e.rejecting) := by
  have hexecute (code : String) : (ScriptEngine.execute e code).1 = !e.rejecting := fst_accept _ _
  cases u with
  | operate o =>
    cases o with
    | execute code => exact (Option.some.inj h).symm.trans (hexecute code)
    | load code option => exact (Option.some.inj h).symm.trans (fst_accept _ _)
    | setVariable name value =>
      rw [← Option.some.inj h]
      simp only [ScriptEngine.setVariable]
      cases e.rejecting <;> rfl
    | reset | terminate => exact (Option.some.inj h).symm
    | _ => cases h
  | suspend | unsuspend => exact (Option.some.inj h).symm.trans (hexecute _)
  | evaluate expression => cases h

theorem use_code {u : Use} {code : String} (h : u.code? = some code) :
    u.isReset = false ∧ u.toggle? = none ∧ u.isRejectable = true
      ∧ u.lines = ScriptState.linesOf code := by
  cases u with
  | operate o =>
    cases o with
    | execute | load =>
      cases h
      exact ⟨rfl, rfl, rfl, rfl⟩
    | _ => cases h
  | _ =>
    cases h
    exact ⟨rfl, rfl, rfl, rfl⟩

/-- Accepted pieces of code do in succession what they do joined by line feeds. -/
theorem script_pieces {e : RecordingEngine} (haccepts : e.rejecting = false) {pieces : List Use}
    (hpieces : ∀ u ∈ pieces, u.code? ≠ none) : (e.useAll pieces).script
      = (e.use (.operate (.execute ("\n".intercalate (pieces.filterMap Use.code?))))).script := by
  have hfold : (e.useAll pieces).script
      = (pieces.filterMap Use.code?).foldl ScriptState.absorb e.script := by
    induction pieces generalizing e with
    | nil => rfl
    | cons u pieces ih =>
      obtain ⟨code, hcode⟩ := Option.ne_none_iff_exists'.1 (hpieces u List.mem_cons_self)
      obtain ⟨hreset, htoggle, hrejectable, hlines⟩ := use_code hcode
      have hadvances := e.advances_use u
      have hstill : (e.use u).rejecting = false := by
        rw [hadvances.rejecting, htoggle, haccepts]
        rfl
      have hrest := ih hstill fun u' hu' => hpieces u' (List.mem_cons_of_mem u hu')
      rw [List.filterMap_cons_some hcode, List.foldl_cons, ScriptState.absorb_eq, ← hlines]
      refine hrest.trans ?_
      rw [hadvances.script, hreset, hrejectable, haccepts]
      rfl
  have hjoined := (e.advances_use
    (.operate (.execute ("\n".intercalate (pieces.filterMap Use.code?))))).script
  rw [haccepts] at hjoined
  rw [hfold, hjoined, ← ScriptState.absorb_intercalate, ScriptState.absorb_eq]
  rfl

theorem fst_evaluate (e : RecordingEngine) (expression : String) :
    (ScriptEngine.evaluate e expression).1
      = if e.rejecting then "" else ScriptEngine.valueOf expression := by
  have hanswer : (ScriptEngine.execute e (ScriptEngine.evaluation expression)).1 = !e.rejecting :=
    fst_accept _ _
  have hscript := (e.advances_use (.evaluate expression)).script
  have hvalue : (ScriptEngine.evaluate e expression).1
      = if !e.rejecting then
          ScriptEngine.getVariable (e.use (.evaluate expression)) ScriptEngine.evalVariable
        else "" := by
    rw [← hanswer]
    rfl
  rw [hvalue, getVariable_eq, hscript]
  cases e.rejecting with
  | true => rfl
  | false =>
    obtain ⟨value, hlast⟩ := exists_lastAssigned? expression
    have hplay := ScriptState.get?_play e.script ScriptEngine.evalVariable
      (ScriptState.linesOf (ScriptEngine.evaluation expression))
    rw [hlast, Option.some_or] at hplay
    rw [ScriptEngine.valueOf, hlast]
    exact congrArg (·.getD "") hplay

/-- After any history, the variables and functions of an engine are those that the uses it accepted
since its last reset make of a script without any, line by line: a variable has the value that it
was given last, and a function exists if it was defined. Whether the engine accepts depends on the
last use that says so alone. A use that is rejected leaves the script as it is, and the answer tells.
The logs hold what was run, added and called, in order, whether it was accepted or not and whatever
was reset. Pieces of code that are accepted do in succession what they do joined by line feeds, and
the value of an expression depends on nothing but the expression. -/
theorem engine_replays (history : List Use) :
    let e := fresh.useAll history
    let lines := (sinceReset (accepted false history)).flatMap Use.lines
    e.script = ScriptState.empty.play lines
      ∧ (∀ name, ScriptEngine.getVariable e name
        = (ScriptState.lastAssigned? name lines).getD "")
      ∧ (∀ function, ScriptEngine.functionExists e function = true ↔ .define function ∈ lines)
      ∧ e.rejecting = rejectingAfter false history
      ∧ (∀ u, (u.isRejectable && e.rejecting) = true → (e.use u).script = e.script)
      ∧ (∀ u ok, e.answer? u = some ok → ok = !(u.isRejectable && e.rejecting))
      ∧ e.executed = history.filterMap Use.executed?
      ∧ e.loaded = history.filterMap Use.loaded?
      ∧ e.calls = history.filterMap Use.called?
      ∧ (e.rejecting = false → ∀ pieces : List Use, (∀ u ∈ pieces, u.code? ≠ none) →
        (e.useAll pieces).script
          = (e.use (.operate (.execute ("\n".intercalate (pieces.filterMap Use.code?))))).script)
      ∧ ∀ expression, (ScriptEngine.evaluate e expression).1
        = if e.rejecting then "" else ScriptEngine.valueOf expression := by
  intro e lines
  have hscript : e.script = ScriptState.empty.play lines := script_useAll history
  refine ⟨hscript, fun name => ?_, fun function => ?_, rejecting_useAll history,
    fun u hrejected => ?_, fun u ok => e.answer_eq,
    log_useAll rfl (fun e u => (e.advances_use u).executed) history,
    log_useAll rfl (fun e u => (e.advances_use u).loaded) history,
    log_useAll rfl (fun e u => (e.advances_use u).calls) history,
    fun haccepts pieces => script_pieces haccepts, e.fst_evaluate⟩
  · have hplay := ScriptState.get?_play .empty name lines
    rw [getVariable_eq, hscript, hplay]
    exact congrArg (·.getD "") (Option.or_none)
  · rw [functionExists_iff, hscript]
    exact (ScriptState.mem_functions_foldl .empty function lines).trans
      (or_iff_right List.not_mem_nil)
  · have hreset : u.isReset = false := by
      by_contra hreset
      rw [not_isRejectable_of_isReset (by simpa using hreset)] at hrejected
      cases hrejected
    rw [(e.advances_use u).script, hreset, if_neg Bool.false_ne_true, if_pos hrejected]

/-- An engine forgets a variable, learns a function and a variable, rejects for a while and goes
on. -/
def rehearsal : List Use :=
  [.operate (.setVariable "old" "1"), .operate .reset,
    .operate (.load "greet(name) \x7b\r\n  x := \"hi\"\n\x7d" .add), .operate (.reject true),
    .operate (.execute "x := 2"), .operate (.setVariable "y" "3"), .suspend,
    .operate (.reject false), .operate (.callFunction "greet" ["you"])]

theorem rehearsal_replayed :
    let e := fresh.useAll rehearsal
    (sinceReset (accepted false rehearsal)).flatMap Use.lines
        = [.define "greet", .assign "x" "hi", .other]
      ∧ ScriptEngine.functionExists e "greet" = true ∧ ScriptEngine.functionExists e "y" = false
      ∧ ScriptEngine.getVariable e "x" = "hi" ∧ ScriptEngine.getVariable e "old" = ""
      ∧ e.executed = ["x := 2", "Suspend, On"] ∧ e.loaded.length = 1
      ∧ e.calls = [("greet", ["you"])] := by
  intro e
  obtain ⟨-, hvariables, hfunctions, -, -, -, hexecuted, hloaded, hcalls, -⟩ :=
    engine_replays rehearsal
  have hlines : (sinceReset (accepted false rehearsal)).flatMap Use.lines
      = [.define "greet", .assign "x" "hi", .other] := by decide +kernel
  refine ⟨hlines, ?_, ?_, ?_, ?_, hexecuted, by rw [hloaded]; rfl, hcalls⟩
  · rw [hfunctions, hlines]
    exact List.mem_cons_self
  · rw [Bool.eq_false_iff, ne_eq, hfunctions, hlines]
    decide
  · rw [hvariables, hlines]
    rfl
  · rw [hvariables, hlines]
    rfl

end RecordingEngine

end KeyBridge
