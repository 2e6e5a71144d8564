-- SUMMARY: The text of nested actions as an outline: rows of some depth, laid out in one pass.
import KeyBridge.Generator
import KeyBridge.Proofs.Literals
import KeyBridge.Proofs.StuckKeys

/-!
# Outlines

The layout of a hotkey indents the text of its body, which has been split into lines and indented
before if there are hotkeys in it. An outline lists the same lines once, each with its depth:
`toList_sequenceText` says what becomes of a row on its way, and `generate_eq_outline` that without
carriage returns nothing but its indentation does.
-/

namespace KeyBridge

/-! ## Calls of the host -/

/-- The call of the host with a literal. -/
def announces (literal : String) : String := Statement.call sendFunction [literal]

theorem toList_announces (literal : String) :
    (announces literal).toList = "SendPipeMessage(".toList ++ (literal.toList ++ [')']) := by
  simp [announces, Statement.call, sendFunction]

theorem announces_ne_nil (literal : String) : (announces literal).toList ≠ [] := by
  rw [toList_announces]
  simp

theorem isLine_announces {header literal : String} (hliteral : Text.quote header = some literal) :
    Text.IsLine (announces literal).toList := by
  simp [toList_announces, Text.isLine_quote hliteral]

/-! ## Lines that are split again -/

namespace Text

/-- A line without the carriage return at its end, if it has one. -/
def dropReturn (line : List Char) : List Char :=
  if line.getLast? = some '\r' then line.dropLast else line

/-- What is left of a line that is indented and split again. -/
def resplit (n : Nat) (line : List Char) : List Char :=
  if line.isEmpty then [] else dropReturn (List.replicate n ' ' ++ line)

/-- What is left of a line that is indented and split again as often as hotkeys are around it. -/
def nested (width : Nat) : Nat → List Char → List Char
  | 0, line => line
  | depth + 1, line => resplit width (nested width depth line)

section

variable {cs line : List Char} {n : Nat}

theorem dropReturn_cons {c : Char} (h : line ≠ []) :
    dropReturn (c :: line) = c :: dropReturn line := by
  cases line with
  | nil => exact absurd rfl h
  | cons d line =>
    rw [dropReturn, dropReturn, List.getLast?_cons_cons]
    split <;> rfl

/-- A line feed ends a line, and takes one carriage return in front of it along. -/
theorem lines_append_feed (h : '\n' ∉ line) (cs : List Char) :
    lines (line ++ '\n' :: cs) = dropReturn line :: lines cs := by
  induction line with
  | nil => exact lines_newline cs
  | cons c line ih =>
    obtain ⟨hc, hline⟩ : c ≠ '\n' ∧ '\n' ∉ line := by simpa [eq_comm] using h
    rw [List.cons_append, lines, if_neg hc, ih hline]
    cases line with
    | nil =>
      by_cases hreturn : c = '\r'
      · simp [hreturn, dropReturn]
      · simp [hreturn, dropReturn]
    | cons d line =>
      have hd : d ≠ '\n' := by
        intro heq
        exact hline (heq ▸ List.mem_cons_self)
      rw [dropReturn_cons (List.cons_ne_nil d line)]
      simp [hd]

theorem feed_not_mem_of_mem_lines (h : line ∈ lines cs) : '\n' ∉ line := by
  induction cs generalizing line with
  | nil => cases h
  | cons c cs ih =>
    rw [lines] at h
    split at h
    · rcases List.mem_cons.1 h with rfl | h
      · exact List.not_mem_nil
      · exact ih h
    · rename_i hc
      split at h
      · exact ih h
      · split at h
        · rw [List.mem_singleton.1 h]
          simpa [eq_comm] using hc
        · rename_i l ls hlines
          rw [hlines] at ih
          rcases List.mem_cons.1 h with rfl | h
          · have hl := ih List.mem_cons_self
            simpa [eq_comm, hl] using hc
          · exact ih (List.mem_cons_of_mem l h)

theorem lines_flatMap_indentLine (n : Nat) {ls : List (List Char)} (hls : ∀ l ∈ ls, '\n' ∉ l)
    (rest : List Char) :
    lines (ls.flatMap (indentLine n) ++ rest) = ls.map (resplit n) ++ lines rest := by
  induction ls with
  | nil => rfl
  | cons l ls ih =>
    have hl := hls l List.mem_cons_self
    have hrest := ih fun x hx => hls x (List.mem_cons_of_mem _ hx)
    rw [List.flatMap_cons, List.append_assoc, List.map_cons, List.cons_append, ← hrest, indentLine,
      resplit]
    split
    · exact lines_newline _
    · have hpadded : '\n' ∉ List.replicate n ' ' ++ l := by
        simp [hl, List.mem_replicate]
      have hline := lines_append_feed hpadded (ls.flatMap (indentLine n) ++ rest)
      simpa using hline

/-- Text that was indented is split into the same lines, up to carriage returns. -/
theorem lines_indentBy (n : Nat) (cs rest : List Char) :
    lines (indentBy n cs ++ rest) = (lines cs).map (resplit n) ++ lines rest :=
  lines_flatMap_indentLine n (fun _ hl => feed_not_mem_of_mem_lines hl) rest

end

end Text

/-! ## Rows -/

/-- Where a row comes from. -/
inductive RowKind where
  /-- A line of a text that was given: raw text, or the name of a variable. -/
  | given
  /-- A line that the layout makes. -/
  | built
  /-- The brace in front of a body. -/
  | opening
  /-- The brace behind a body. -/
  | closing
  /-- The line that calls the host with a header. -/
  | call (header : String)
deriving DecidableEq

/-- A line of a text, and in how many hotkeys it stands. -/
structure Row where
  depth : Nat
  line : List Char
  kind : RowKind
deriving DecidableEq

namespace Row

/-- A row that the layout makes. -/
def built (depth : Nat) (line : String) : Row := ⟨depth, line.toList, .built⟩

/-- The rows of a text. -/
def ofText (depth : Nat) (kind : RowKind) (text : String) : List Row :=
  (Text.lines text.toList).map fun line => ⟨depth, line, kind⟩

/-- The rows of a statement that calls the host: the call is in the last one. -/
def ofCall (depth : Nat) (header statement : String) : List Row :=
  let lines := Text.lines statement.toList
  lines.dropLast.map (fun line => ⟨depth, line, .given⟩)
    ++ lines.getLast?.toList.map fun line => ⟨depth, line, .call header⟩

/-- The rows that let go of keys. -/
def lettingGo (depth : Nat) (keys : List Key) : List Row :=
  (keys.filter fun k => k.label.isSome).map fun k => built depth (Statement.send k .up)

/-- The row one level deeper. -/
def deeper (r : Row) : Row := { r with depth := r.depth + 1 }

/-- What the text of the whole has of a row before it is indented. -/
def content (width : Nat) (r : Row) : List Char := Text.nested width r.depth r.line

end Row

/-! ## Outlines -/

/-- What stands in front of the call of the host. -/
def Binding.front (b : Binding) : String :=
  match b.capture with
  | some name => name ++ " := "
  | none => ""

/-- The rows of the statement that invokes the callback, if it stands at a placement. -/
def Binding.callRows (b : Binding) (header : String) (depth : Nat) (here : Placement) : List Row :=
  match b.invocation? header here with
  | some statement => Row.ofCall depth header statement
  | none => []

/-- The row of a header. -/
def Binding.headerRow (b : Binding) (header : String) (depth : Nat) : Row :=
  Row.built depth ((if b.blocking then "" else "~") ++ header ++ "::")

/-- The rows of a hotkey around the rows of its body. -/
def Binding.enclosing (b : Binding) (header : String) (depth : Nat) (body : List Row) : List Row :=
  b.headerRow header depth :: ⟨depth, ['\x7b'], .opening⟩
    :: Row.built (depth + 1) (Statement.sendMode b.sendMode)
    :: (b.callRows header (depth + 1) .start ++ body ++ b.callRows header (depth + 1) .last
      ++ [Row.built (depth + 1) "return", ⟨depth, ['\x7d'], .closing⟩])

mutual

/-- The rows of an action at a depth. -/
def Action.outline (depth : Nat) : Action → List Row
  | .raw code => Row.ofText depth .given code
  | .key a => Row.ofText depth .built a.text
  | .release _ => []
  | .hotkey b body =>
    match b.header? with
    | some header =>
      b.enclosing header depth
        (actionsOutline (depth + 1) body ++ Row.lettingGo (depth + 1) (heldAfter body).keys)
    | none => []

/-- The rows of actions one after the other. -/
def actionsOutline (depth : Nat) : List Action → List Row
  | [] => []
  | a :: rest => a.outline depth ++ actionsOutline depth rest

end

/-- The rows of a sequence: its actions, then the keys still held. -/
def sequenceOutline (depth : Nat) (actions : List Action) : List Row :=
  actionsOutline depth actions ++ Row.lettingGo depth (heldAfter actions).keys

theorem Action.outline_hotkey (depth : Nat) (b : Binding) (body : List Action) :
    (Action.hotkey b body).outline depth
      = match b.header? with
        | some header => b.enclosing header depth (sequenceOutline (depth + 1) body)
        | none => [] := by
  simp only [Action.outline, sequenceOutline]

/-- What holds of the empty sequence and of every sequence whose rest it holds of, and the body of
whose first action if that is a hotkey, holds of all sequences. -/
@[elab_as_elim]
theorem Action.induction {motive : List Action → Prop} (nil : motive [])
    (raw : ∀ code rest, motive rest → motive (.raw code :: rest))
    (key : ∀ a rest, motive rest → motive (.key a :: rest))
    (release : ∀ r rest, motive rest → motive (.release r :: rest))
    (hotkey : ∀ b body rest, motive body → motive rest → motive (.hotkey b body :: rest)) :
    ∀ actions, motive actions
  | [] => nil
  | .raw code :: rest => raw code rest (Action.induction nil raw key release hotkey rest)
  | .key a :: rest => key a rest (Action.induction nil raw key release hotkey rest)
  | .release r :: rest => release r rest (Action.induction nil raw key release hotkey rest)
  | .hotkey b body :: rest =>
    hotkey b body rest (Action.induction nil raw key release hotkey body)
      (Action.induction nil raw key release hotkey rest)

/-! ## Depths -/

namespace Row

variable {depth : Nat}

theorem ofText_succ (kind : RowKind) (text : String) :
    ofText (depth + 1) kind text = (ofText depth kind text).map deeper := by
  simp [ofText, deeper]

theorem ofCall_succ (header statement : String) :
    ofCall (depth + 1) header statement = (ofCall depth header statement).map deeper := by
  simp only [ofCall, List.map_append, List.map_map]
  rfl

theorem lettingGo_succ (keys : List Key) :
    lettingGo (depth + 1) keys = (lettingGo depth keys).map deeper := by
  simp [lettingGo, built, deeper]

end Row

theorem Binding.callRows_succ (b : Binding) (header : String) (depth : Nat) (here : Placement) :
    b.callRows header (depth + 1) here = (b.callRows header depth here).map Row.deeper := by
  rw [callRows, callRows]
  cases b.invocation? header here with
  | none => rfl
  | some statement => exact Row.ofCall_succ header statement

theorem Binding.enclosing_succ (b : Binding) (header : String) (depth : Nat) (body : List Row) :
    b.enclosing header (depth + 1) (body.map Row.deeper)
      = (b.enclosing header depth body).map Row.deeper := by
  simp [enclosing, Binding.callRows_succ, headerRow, Row.built, Row.deeper]

theorem actionsOutline_succ (depth : Nat) (actions : List Action) :
    actionsOutline (depth + 1) actions = (actionsOutline depth actions).map Row.deeper := by
  induction actions using Action.induction generalizing depth with
  | nil => rfl
  | raw code rest ih => simp [actionsOutline, Action.outline, Row.ofText_succ, ih]
  | key a rest ih => simp [actionsOutline, Action.outline, Row.ofText_succ, ih]
  | release r rest ih => simpa [actionsOutline, Action.outline] using ih depth
  | hotkey b body rest ihBody ihRest =>
    rw [actionsOutline, actionsOutline, Action.outline, Action.outline, ihRest, List.map_append]
    cases b.header? with
    | none => rfl
    | some header =>
      simp only [ihBody, Row.lettingGo_succ, ← List.map_append, Binding.enclosing_succ]

theorem sequenceOutline_succ (depth : Nat) (actions : List Action) :
    sequenceOutline (depth + 1) actions = (sequenceOutline depth actions).map Row.deeper := by
  rw [sequenceOutline, actionsOutline_succ, Row.lettingGo_succ, ← List.map_append, sequenceOutline]

/-! ## The text of an outline -/

section

variable (width : Nat)

theorem Row.lines_ofText (kind : RowKind) (text : String) :
    (ofText 0 kind text).map (content width) = Text.lines text.toList := by
  simp only [ofText, List.map_map]
  exact List.map_id _

theorem Row.lines_ofCall (header statement : String) :
    (ofCall 0 header statement).map (content width) = Text.lines statement.toList := by
  simp only [ofCall, List.map_append, List.map_map]
  have hsame (lines : List (List Char)) : lines.dropLast ++ lines.getLast?.toList = lines := by
    cases lines with
    | nil => rfl
    | cons line lines =>
      have hne := List.cons_ne_nil line lines
      rw [List.getLast?_eq_some_getLast hne]
      exact List.dropLast_concat_getLast hne
  have hid (kind : RowKind) :
      content width ∘ (fun line => (⟨0, line, kind⟩ : Row)) = id := rfl
  rw [hid, hid, List.map_id, List.map_id, hsame]

theorem toList_lettingGo (n : Nat) (keys : List Key) :
    (lettingGo n keys).toList
      = (Row.lettingGo 0 keys).flatMap fun r => Text.indentLine n (r.content width) := by
  induction keys with
  | nil => rfl
  | cons k keys ih =>
    have hcons : (lettingGo n (k :: keys)).toList
        = Text.indentBy n (Statement.send k .up).toList ++ (lettingGo n keys).toList := by
      simp [lettingGo]
    rw [hcons, ih]
    rcases h : k.label with _ | label
    · simp [Statement.send, Row.lettingGo, h]
    · have hline := Text.lines_of_isLine (isLine_send k .up)
      have hne : (Statement.send k .up).toList ≠ [] := by simp [Statement.send, h]
      rw [Text.indentBy, hline, if_neg hne]
      simp [Row.lettingGo, h, Row.built, Row.content, Text.nested]

theorem isLine_of_mem_lettingGo {depth : Nat} {keys : List Key} {r : Row}
    (h : r ∈ Row.lettingGo depth keys) : Text.IsLine r.line := by
  obtain ⟨k, -, rfl⟩ := List.mem_map.1 h
  exact isLine_send k .up

theorem lines_lettingGo (n : Nat) (keys : List Key) (rest : List Char) :
    Text.lines ((lettingGo n keys).toList ++ rest)
      = (Row.lettingGo 0 keys).map (fun r => Text.resplit n (r.content width))
        ++ Text.lines rest := by
  have hrows : ∀ l ∈ (Row.lettingGo 0 keys).map (Row.content width), '\n' ∉ l := by
    intro l hl hfeed
    obtain ⟨r, hr, rfl⟩ := List.mem_map.1 hl
    obtain ⟨k, -, rfl⟩ := List.mem_map.1 hr
    exact (isLine_send k .up _ hfeed).1 rfl
  have hlines := Text.lines_flatMap_indentLine n hrows rest
  rw [List.flatMap_map, List.map_map] at hlines
  rw [toList_lettingGo width]
  exact hlines

theorem Binding.lines_indentOption (b : Binding) (header : String) (here : Placement)
    (rest : List Char) :
    Text.lines ((indentOption width (b.invocation? header here)).toList ++ rest)
      = (b.callRows header 0 here).map (fun r => Text.resplit width (r.content width))
        ++ Text.lines rest := by
  rw [callRows]
  cases b.invocation? header here with
  | none => rfl
  | some statement =>
    rw [indentOption, Text.toList_indent, Text.lines_indentBy, ← Row.lines_ofCall width header,
      List.map_map]
    rfl

theorem isLine_of_isVisible {cs : List Char} (h : Text.IsVisible cs) : Text.IsLine cs := by
  intro c hc
  have hge := (Text.isVisible_iff.1 (h c hc)).1
  constructor
  · rintro rfl
    revert hge
    decide
  · rintro rfl
    revert hge
    decide

theorem isLine_sendMode (mode : SendMode) : Text.IsLine (Statement.sendMode mode).toList := by
  cases mode <;> decide

theorem Binding.isLine_headerRow {b : Binding} {header : String} (h : b.header? = some header)
    (depth : Nat) : Text.IsLine (b.headerRow header depth).line := by
  have hvisible := (isLabelText_iff.1 (isLabelText_header h)).1
  have hmark : Text.IsLine (if b.blocking then "" else "~").toList := by
    split <;> decide
  have hend : Text.IsLine "::".toList := by decide
  rw [headerRow, Row.built, String.toList_append, String.toList_append]
  exact Text.isLine_append.2 ⟨Text.isLine_append.2 ⟨hmark, isLine_of_isVisible hvisible⟩, hend⟩

/-- The text of a hotkey is split into its rows if that of the body is. -/
theorem Binding.lines_enclose (b : Binding) {header : String} (hheader : b.header? = some header)
    {body : String} {rows : List Row} (hbody : ∀ rest : List Char,
      Text.lines (body.toList ++ rest) = rows.map (Row.content width) ++ Text.lines rest) :
    Text.lines (b.enclose header width body).toList
      = (b.enclosing header 0 rows).map (Row.content width) := by
  have hfirst := isLine_headerRow hheader 0
  have hbrace : Text.IsLine ['\x7b'] := by decide
  have hsplit : (b.enclose header width body).toList
      = (b.headerRow header 0).line ++ '\n' :: (['\x7b'] ++ '\n' ::
        (Text.indentBy width (Statement.sendMode b.sendMode).toList
          ++ ((indentOption width (b.invocation? header .start)).toList
          ++ (body.toList
          ++ ((indentOption width (b.invocation? header .last)).toList
          ++ (Text.indentBy width "return".toList ++ ['\x7d', '\n'])))))) := by
    simp [enclose, headerRow, Row.built]
  have hmode : Text.lines (Statement.sendMode b.sendMode).toList
      = [(Statement.sendMode b.sendMode).toList] := by
    rw [Text.lines_of_isLine (isLine_sendMode b.sendMode), if_neg]
    simp [Statement.sendMode]
  have hreturn : Text.lines "return".toList = ["return".toList] := by decide
  have hclose : Text.lines ['\x7d', '\n'] = [['\x7d']] := by decide
  rw [hsplit, Text.lines_append_newline hfirst, Text.lines_append_newline hbrace,
    Text.lines_indentBy, lines_indentOption, hbody, lines_indentOption, Text.lines_indentBy, hmode,
    hreturn, hclose, enclosing, callRows_succ, callRows_succ]
  simp only [List.map_cons, List.map_append, List.map_map, List.map_nil, List.cons_append,
    List.nil_append, List.append_assoc]
  rfl

/-- The text of actions is split into their rows, however it is indented and whatever follows. -/
def SplitsIntoRows (actions : List Action) : Prop :=
  ∀ (n : Nat) (rest : List Char),
    Text.lines ((actionsText width n actions).toList ++ rest)
      = (actionsOutline 0 actions).map (fun r => Text.resplit n (r.content width))
        ++ Text.lines rest

variable {width}

theorem SplitsIntoRows.cons {actions : List Action} (hrest : SplitsIntoRows width actions)
    (a : Action) (ha : Text.lines (a.text width).toList = (a.outline 0).map (Row.content width)) :
    SplitsIntoRows width (a :: actions) := by
  intro n rest
  simp only [actionsText, actionsOutline, String.toList_append, Text.toList_indent,
    List.append_assoc, List.map_append]
  rw [Text.lines_indentBy, hrest, ha, List.map_map]
  rfl

theorem SplitsIntoRows.hotkey {body : List Action} (hbody : SplitsIntoRows width body)
    (b : Binding) : Text.lines ((Action.hotkey b body).text width).toList
      = ((Action.hotkey b body).outline 0).map (Row.content width) := by
  rw [Action.text_hotkey, Action.outline_hotkey]
  cases hheader : b.header? with
  | none => rfl
  | some header =>
    apply b.lines_enclose width hheader
    intro rest
    rw [indentedText, String.toList_append, List.append_assoc, hbody,
      lines_lettingGo width, sequenceOutline_succ, sequenceOutline, List.map_map, List.map_append,
      List.append_assoc]
    rfl

variable (width)

theorem splitsIntoRows (actions : List Action) : SplitsIntoRows width actions := by
  induction actions using Action.induction with
  | nil => exact fun _ _ => rfl
  | raw code actions ih => exact ih.cons _ (Row.lines_ofText width .given code).symm
  | key a actions ih => exact ih.cons _ (Row.lines_ofText width .built a.text).symm
  | release r actions ih => exact ih.cons _ rfl
  | hotkey b body actions ihBody ihRest => exact ihRest.cons _ (ihBody.hotkey b)

theorem Action.lines_text (a : Action) :
    Text.lines (a.text width).toList = (a.outline 0).map (Row.content width) := by
  cases a with
  | raw code => exact (Row.lines_ofText width .given code).symm
  | key a => exact (Row.lines_ofText width .built a.text).symm
  | release r => rfl
  | hotkey b body => exact (splitsIntoRows width body).hotkey b

theorem toList_actionsText (n : Nat) (actions : List Action) :
    (actionsText width n actions).toList
      = (actionsOutline 0 actions).flatMap fun r => Text.indentLine n (r.content width) := by
  induction actions with
  | nil => rfl
  | cons a actions ih =>
    rw [actionsText, actionsOutline, String.toList_append, Text.toList_indent, Text.indentBy,
      a.lines_text, ih, List.flatMap_append, List.flatMap_map]

/-- The text of a sequence is made of its rows. -/
theorem toList_sequenceText (level : Nat) (actions : List Action) :
    (sequenceText width level actions).toList
      = (sequenceOutline 0 actions).flatMap fun r =>
          Text.indentLine (indentation width level) (r.content width) := by
  rw [sequenceText, indentedText, sequenceOutline, String.toList_append, toList_actionsText,
    toList_lettingGo width, List.flatMap_append]

end

/-! ## Without carriage returns -/

namespace Text

section

variable {cs line : List Char}

theorem mem_of_mem_lines (h : line ∈ lines cs) {c : Char} (hc : c ∈ line) : c ∈ cs := by
  induction cs generalizing line c with
  | nil => cases h
  | cons d cs ih =>
    rw [lines] at h
    split at h
    · rcases List.mem_cons.1 h with rfl | h
      · cases hc
      · exact List.mem_cons_of_mem d (ih h hc)
    · split at h
      · exact List.mem_cons_of_mem d (ih h hc)
      · split at h
        · rw [List.mem_singleton.1 h] at hc
          rw [List.mem_singleton.1 hc]
          exact List.mem_cons_self
        · rename_i l ls hlines
          rw [hlines] at ih
          rcases List.mem_cons.1 h with rfl | h
          · rcases List.mem_cons.1 hc with rfl | hc
            · exact List.mem_cons_self
            · exact List.mem_cons_of_mem d (ih List.mem_cons_self hc)
          · exact List.mem_cons_of_mem d (ih (List.mem_cons_of_mem l h) hc)

theorem isLine_of_mem_lines (h : line ∈ lines cs) (hreturn : '\r' ∉ cs) : IsLine line := by
  intro c hc
  constructor
  · rintro rfl
    exact feed_not_mem_of_mem_lines h hc
  · rintro rfl
    exact hreturn (mem_of_mem_lines h hc)

theorem dropReturn_of_getLast? (h : line.getLast? ≠ some '\r') : dropReturn line = line :=
  if_neg h

theorem IsLine.getLast?_ne (h : IsLine line) : line.getLast? ≠ some '\r' := by
  intro hlast
  exact (h _ (List.mem_of_getLast? hlast)).2 rfl

/-- A line in front of which there are spaces, if it is not empty. -/
def padded (n : Nat) (line : List Char) : List Char :=
  if line.isEmpty then [] else List.replicate n ' ' ++ line

theorem isLine_padded (n : Nat) (h : IsLine line) : IsLine (padded n line) := by
  have hspaces : IsLine (List.replicate n ' ') := by
    intro c hc
    rw [List.eq_of_mem_replicate hc]
    decide
  rw [padded]
  split
  · exact isLine_nil
  · exact isLine_append.2 ⟨hspaces, h⟩

theorem getLast?_padded (n : Nat) (line : List Char) :
    (padded n line).getLast? = line.getLast? := by
  cases line with
  | nil => rfl
  | cons c line => simp [padded, List.getLast?_cons]

theorem indentLine_eq (n : Nat) (line : List Char) :
    indentLine n line = padded n line ++ ['\n'] := by
  cases line <;> simp [indentLine, padded]

theorem padded_padded (n m : Nat) (line : List Char) :
    padded n (padded m line) = padded (n + m) line := by
  cases line <;> simp [padded, ← List.replicate_append_replicate]

theorem resplit_eq_padded (n : Nat) (h : line.getLast? ≠ some '\r') :
    resplit n line = padded n line := by
  rw [← getLast?_padded n] at h
  rw [resplit]
  split
  · rename_i hempty
    rw [padded, if_pos hempty]
  · rename_i hfull
    rw [padded, if_neg hfull] at h ⊢
    exact dropReturn_of_getLast? h

/-- Without a carriage return at its end, a nested line is indented as often as it is nested. -/
theorem nested_eq_padded (width depth : Nat) (h : line.getLast? ≠ some '\r') :
    nested width depth line = padded (width * depth) line := by
  induction depth with
  | zero => cases line <;> rfl
  | succ depth ih =>
    rw [← getLast?_padded (width * depth)] at h
    rw [nested, ih, resplit_eq_padded width h, padded_padded, Nat.mul_succ, Nat.add_comm]

theorem indentLine_nested (n width depth : Nat) (h : line.getLast? ≠ some '\r') :
    indentLine n (nested width depth line) = indentLine (n + width * depth) line := by
  rw [nested_eq_padded width depth h, indentLine_eq, padded_padded, indentLine_eq]

end

end Text

mutual

/-- The texts that were given with an action: raw text, and the names of variables. -/
def Action.texts : Action → List String
  | .raw code => [code]
  | .key _ => []
  | .release _ => []
  | .hotkey b body => b.capture.toList ++ actionsTexts body

/-- The texts that were given with actions. -/
def actionsTexts : List Action → List String
  | [] => []
  | a :: rest => a.texts ++ actionsTexts rest

end

section

variable {depth : Nat}

theorem isLine_of_mem_ofText {kind : RowKind} {text : String} (htext : '\r' ∉ text.toList)
    {r : Row} (h : r ∈ Row.ofText depth kind text) : Text.IsLine r.line := by
  obtain ⟨line, hline, rfl⟩ := List.mem_map.1 h
  exact Text.isLine_of_mem_lines hline htext

theorem Row.mem_lines_of_mem_ofCall {header statement : String} {r : Row}
    (h : r ∈ Row.ofCall depth header statement) : r.line ∈ Text.lines statement.toList := by
  rcases List.mem_append.1 h with h | h
  · obtain ⟨line, hline, rfl⟩ := List.mem_map.1 h
    exact List.dropLast_subset _ hline
  · obtain ⟨line, hline, rfl⟩ := List.mem_map.1 h
    exact List.mem_of_getLast? (Option.mem_toList.1 hline)

/-- The invocation of a callback is the call, with the name of a variable in front if one is
given. -/
theorem Binding.invocation?_spec {b : Binding} {header statement : String} {here : Placement}
    (h : b.invocation? header here = some statement) :
    ∃ literal, Text.quote header = some literal ∧ statement = b.front ++ announces literal := by
  rw [invocation?] at h
  split at h
  · cases h
  · obtain ⟨literal, hliteral, hstatement⟩ := Option.map_eq_some_iff.1 h
    refine ⟨literal, hliteral, ?_⟩
    rw [← hstatement, front]
    cases b.capture with
    | none => exact String.empty_append.symm
    | some name => rfl

theorem Binding.isLine_of_mem_callRows {b : Binding} {header : String}
    (hcapture : ∀ name ∈ b.capture, '\r' ∉ name.toList) {here : Placement} {r : Row}
    (h : r ∈ b.callRows header depth here) : Text.IsLine r.line := by
  rw [callRows] at h
  split at h
  · rename_i statement hstatement
    obtain ⟨literal, hliteral, rfl⟩ := invocation?_spec hstatement
    apply Text.isLine_of_mem_lines (Row.mem_lines_of_mem_ofCall h)
    have hcall : '\r' ∉ (announces literal).toList := by
      intro hreturn
      exact (isLine_announces hliteral _ hreturn).2 rfl
    have hfront : '\r' ∉ b.front.toList := by
      rw [front]
      split
      · rename_i name hname
        simpa using hcapture name hname
      · decide
    simp [hfront, hcall]
  · cases h

theorem Binding.forall_enclosing {b : Binding} {header : String} {body : List Row}
    {p : Row → Prop} : (∀ r ∈ b.enclosing header depth body, p r) ↔
      p (b.headerRow header depth) ∧ p ⟨depth, ['\x7b'], .opening⟩
        ∧ p (Row.built (depth + 1) (Statement.sendMode b.sendMode))
        ∧ (∀ r ∈ b.callRows header (depth + 1) .start, p r) ∧ (∀ r ∈ body, p r)
        ∧ (∀ r ∈ b.callRows header (depth + 1) .last, p r)
        ∧ p (Row.built (depth + 1) "return") ∧ p ⟨depth, ['\x7d'], .closing⟩ := by
  simp [enclosing, or_imp, forall_and]

/-- The lines of rows have no carriage returns that were not given. -/
theorem isLine_of_mem_outline {actions : List Action}
    (htexts : ∀ t ∈ actionsTexts actions, '\r' ∉ t.toList) :
    ∀ r ∈ actionsOutline depth actions, Text.IsLine r.line := by
  induction actions using Action.induction generalizing depth with
  | nil => exact List.forall_mem_nil _
  | raw code rest ih =>
    obtain ⟨hcode, hrest⟩ := List.forall_mem_append.1 htexts
    refine List.forall_mem_append.2 ⟨?_, ih hrest⟩
    intro r hr
    exact isLine_of_mem_ofText (hcode code List.mem_cons_self) hr
  | key a rest ih =>
    refine List.forall_mem_append.2 ⟨?_, ih (List.forall_mem_append.1 htexts).2⟩
    intro r hr
    obtain ⟨line, hline, rfl⟩ := List.mem_map.1 hr
    exact a.typed_text.1 line hline
  | release a rest ih =>
    exact List.forall_mem_append.2 ⟨List.forall_mem_nil _, ih (List.forall_mem_append.1 htexts).2⟩
  | hotkey b body rest ihBody ihRest =>
    obtain ⟨hfirst, hrest⟩ := List.forall_mem_append.1 htexts
    obtain ⟨hcapture, hbody⟩ := List.forall_mem_append.1 hfirst
    refine List.forall_mem_append.2 ⟨?_, ihRest hrest⟩
    rw [Action.outline]
    cases hheader : b.header? with
    | none => exact List.forall_mem_nil _
    | some header =>
      have hcalls {here : Placement} : ∀ r ∈ b.callRows header (depth + 1) here,
          Text.IsLine r.line := by
        intro r hr
        exact Binding.isLine_of_mem_callRows
          (fun name hname => hcapture name (Option.mem_toList.2 hname)) hr
      have hopening : Text.IsLine ['\x7b'] := by decide
      have hclosing : Text.IsLine ['\x7d'] := by decide
      have hreturn : Text.IsLine "return".toList := by decide
      have hinside : ∀ r ∈ actionsOutline (depth + 1) body
          ++ Row.lettingGo (depth + 1) (heldAfter body).keys, Text.IsLine r.line :=
        List.forall_mem_append.2 ⟨ihBody hbody, fun _ hr => isLine_of_mem_lettingGo hr⟩
      exact Binding.forall_enclosing.2 ⟨Binding.isLine_headerRow hheader depth, hopening,
        isLine_sendMode b.sendMode, hcalls, hinside, hcalls, hreturn, hclosing⟩

end

/-! ## Braces -/

/-- How deep a text stands after one more row; none if the row stands elsewhere than the braces
before it say. -/
def Row.follow (depth : Nat) (r : Row) : Option Nat :=
  match r.kind with
  | .opening => if r.depth = depth ∧ r.line = ['\x7b'] then some (depth + 1) else none
  | .closing => if r.depth + 1 = depth ∧ r.line = ['\x7d'] then some r.depth else none
  | _ => if r.depth = depth then some depth else none

/-- The rows stand where the braces say, and leave as many open as there were before. -/
def Balanced (depth : Nat) (rows : List Row) : Prop := rows.foldlM Row.follow depth = some depth

section

variable {depth : Nat} {rows rows' : List Row}

theorem Balanced.append (h : Balanced depth rows) (h' : Balanced depth rows') :
    Balanced depth (rows ++ rows') := by
  rw [Balanced, List.foldlM_append, h]
  exact h'

theorem balanced_of_forall (h : ∀ r ∈ rows, r.follow depth = some depth) :
    Balanced depth rows := by
  induction rows with
  | nil => rfl
  | cons r rows ih =>
    rw [Balanced, List.foldlM_cons, h r List.mem_cons_self]
    exact ih fun x hx => h x (List.mem_cons_of_mem r hx)

theorem balanced_map (kind : RowKind)
    (hkind : ∀ line, Row.follow depth ⟨depth, line, kind⟩ = some depth) (lines : List (List Char)) :
    Balanced depth (lines.map fun line => ⟨depth, line, kind⟩) := by
  apply balanced_of_forall
  intro r hr
  obtain ⟨line, -, rfl⟩ := List.mem_map.1 hr
  exact hkind line

theorem balanced_ofText (text : String) :
    Balanced depth (Row.ofText depth .given text) ∧ Balanced depth (Row.ofText depth .built text) :=
  ⟨balanced_map .given (fun _ => if_pos rfl) _, balanced_map .built (fun _ => if_pos rfl) _⟩

theorem balanced_lettingGo (keys : List Key) : Balanced depth (Row.lettingGo depth keys) := by
  apply balanced_of_forall
  intro r hr
  obtain ⟨k, -, rfl⟩ := List.mem_map.1 hr
  exact if_pos rfl

theorem Binding.balanced_callRows (b : Binding) (header : String) (here : Placement) :
    Balanced depth (b.callRows header depth here) := by
  rw [callRows]
  split
  · exact (balanced_map .given (fun _ => if_pos rfl) _).append
      (balanced_map (.call header) (fun _ => if_pos rfl) _)
  · rfl

theorem Balanced.enclosing (h : Balanced (depth + 1) rows) (b : Binding) (header : String) :
    Balanced depth (b.enclosing header depth rows) := by
  have hfirst : (b.headerRow header depth).follow depth = some depth := if_pos rfl
  have hopening : Row.follow depth ⟨depth, ['\x7b'], .opening⟩ = some (depth + 1) :=
    if_pos ⟨rfl, rfl⟩
  have hmode : (Row.built (depth + 1) (Statement.sendMode b.sendMode)).follow (depth + 1)
      = some (depth + 1) := if_pos rfl
  have hinside := ((b.balanced_callRows header .start).append h).append
    (b.balanced_callRows header .last)
  have hreturn : (Row.built (depth + 1) "return").follow (depth + 1) = some (depth + 1) :=
    if_pos rfl
  have hclosing : Row.follow (depth + 1) ⟨depth, ['\x7d'], .closing⟩ = some depth :=
    if_pos ⟨rfl, rfl⟩
  simp only [Balanced, Binding.enclosing, List.foldlM_cons, hfirst, hopening, hmode,
    Option.bind_eq_bind, Option.bind_some]
  rw [List.foldlM_append, hinside]
  simp [hreturn, hclosing]

theorem balanced_actionsOutline (actions : List Action) :
    Balanced depth (actionsOutline depth actions) := by
  induction actions using Action.induction generalizing depth with
  | nil => rfl
  | raw code rest ih => exact (balanced_ofText code).1.append ih
  | key a rest ih => exact (balanced_ofText a.text).2.append ih
  | release r rest ih => exact ih
  | hotkey b body rest ihBody ihRest =>
    refine Balanced.append ?_ ihRest
    rw [Action.outline]
    cases b.header? with
    | none => rfl
    | some header => exact (ihBody.append (balanced_lettingGo _)).enclosing b header

theorem balanced_sequenceOutline (actions : List Action) :
    Balanced depth (sequenceOutline depth actions) :=
  (balanced_actionsOutline actions).append (balanced_lettingGo _)

end

/-! ## Generated text -/

/-- A row as it is printed at a level. -/
def Row.printed (width level : Nat) (r : Row) : List Char :=
  Text.indentLine (indentation width level + width * r.depth) r.line

/-- If the indentation of the level does not wrap around, a row stands as many levels in as it is
deep. -/
theorem Row.printed_of_lt {width level : Nat} (h : width * level < UInt64.size) (r : Row) :
    r.printed width level = Text.indentLine (width * (level + r.depth)) r.line := by
  rw [printed, indentation_of_lt h, Nat.mul_add]

section

variable {rows : List Row} (hrows : ∀ r ∈ rows, Text.IsLine r.line)
include hrows

theorem lines_printed (width level : Nat) : Text.lines (rows.flatMap (Row.printed width level))
    = rows.map fun r => Text.padded (indentation width level + width * r.depth) r.line := by
  induction rows with
  | nil => rfl
  | cons r rows ih =>
    have hline := Text.isLine_padded (indentation width level + width * r.depth)
      (hrows r List.mem_cons_self)
    rw [List.flatMap_cons, Row.printed, Text.indentLine_eq, List.append_assoc, List.singleton_append,
      Text.lines_append_newline hline, ih fun x hx => hrows x (List.mem_cons_of_mem r hx),
      List.map_cons]

/-- Indentation moves every row. -/
theorem indentBy_printed {width l₁ l₂ : Nat} (hfits : width * (l₁ + l₂) < UInt64.size) :
    Text.indentBy (width * l₂) (rows.flatMap (Row.printed width l₁))
      = rows.flatMap (Row.printed width (l₁ + l₂)) := by
  have hfirst : width * l₁ < UInt64.size :=
    Nat.lt_of_le_of_lt (Nat.mul_le_mul_left width (Nat.le_add_right l₁ l₂)) hfits
  have hmoved : width * l₂ + indentation width l₁ = indentation width (l₁ + l₂) := by
    rw [indentation_of_lt hfirst, indentation_of_lt hfits, Nat.mul_add, Nat.add_comm]
  rw [Text.indentBy, lines_printed hrows, List.flatMap_map]
  apply congrArg (rows.flatMap ·)
  funext r
  rw [Text.indentLine_eq, Text.padded_padded, Row.printed, Text.indentLine_eq, ← Nat.add_assoc,
    hmoved]

end

section

variable {actions : List Action} (htexts : ∀ t ∈ actionsTexts actions, '\r' ∉ t.toList)
include htexts

theorem isLine_of_mem_sequenceOutline : ∀ r ∈ sequenceOutline 0 actions, Text.IsLine r.line :=
  List.forall_mem_append.2 ⟨isLine_of_mem_outline htexts, fun _ hr => isLine_of_mem_lettingGo hr⟩

theorem sequenceText_of_texts (width level : Nat) : sequenceText width level actions
    = String.ofList ((sequenceOutline 0 actions).flatMap (Row.printed width level)) := by
  have hcongr : (sequenceOutline 0 actions).map
      (fun r => Text.indentLine (indentation width level) (r.content width))
      = (sequenceOutline 0 actions).map (Row.printed width level) := by
    apply List.map_congr_left
    intro r hr
    have hline := isLine_of_mem_sequenceOutline htexts r hr
    exact Text.indentLine_nested _ width r.depth hline.getLast?_ne
  have hflat := toList_sequenceText width level actions
  rw [List.flatMap_def, hcongr, ← List.flatMap_def] at hflat
  rw [← hflat, String.ofList_toList]

end

/-- Each row of the outline is printed once, as deep as it stands; at other levels all of them are
moved by the same indentation, and every row stands as deep as there are braces open. The levels
are those whose indentation is a machine word. -/
theorem generate_eq_outline (g : Generator) (actions : List Action) (host : Host)
    (htexts : ∀ t ∈ actionsTexts actions, '\r' ∉ t.toList) :
    (∀ level, (g.generate actions level host).1
        = String.ofList ((sequenceOutline 0 actions).flatMap
            (Row.printed g.config.indentWidth level)))
      ∧ (∀ level, g.config.indentWidth * level < UInt64.size → ∀ r : Row,
        r.printed g.config.indentWidth level
          = Text.indentLine (g.config.indentWidth * (level + r.depth)) r.line)
      ∧ (∀ l₁ l₂, g.config.indentWidth * (l₁ + l₂) < UInt64.size →
        (g.generate actions (l₁ + l₂) host).1
          = Text.indent (g.config.indentWidth * l₂) (g.generate actions l₁ host).1)
      ∧ Balanced 0 (sequenceOutline 0 actions) := by
  refine ⟨sequenceText_of_texts htexts g.config.indentWidth, fun _ hfits r => r.printed_of_lt hfits,
    ?_, balanced_sequenceOutline actions⟩
  intro l₁ l₂ hfits
  have hrows := isLine_of_mem_sequenceOutline htexts
  have hmoved := indentBy_printed hrows hfits
  rw [Generator.generate, Generator.generate, sequenceText_of_texts htexts,
    sequenceText_of_texts htexts, ← hmoved, Text.indent, String.toList_ofList]

/-- A hotkey in the body of another one, with blank lines, a reply that is kept and keys that are
let go. -/
def nestedHotkeys : List Action :=
  let inner := { Hotkey.ofTrigger (.key .f2) [] with
    callback := some .echo, placement := .last, capture := some "reply"
    body := [.key (.down .letterA)] }
  let outer := { Hotkey.ofTrigger (.key .f1) [] with
    blocking := true
    body := [.raw "one\n\ntwo\n", inner.toAction, .key (.down .letterB)] }
  [outer.toAction, .raw "last"]

theorem generate_nestedHotkeys :
    (∀ t ∈ actionsTexts nestedHotkeys, '\r' ∉ t.toList)
    ∧ GeneratorConfig.default.indentWidth * 1 < UInt64.size
    ∧ (∀ r : Row, r.printed GeneratorConfig.default.indentWidth 1
      = Text.indentLine (GeneratorConfig.default.indentWidth * (1 + r.depth)) r.line)
    ∧ (Generator.generate ⟨.default, ⟨0⟩⟩ nestedHotkeys 1 (.fresh 8)).1
      = String.join [
        "    F1::\n", "    \x7b\n", "        SendMode Input\n", "        one\n", "\n",
        "        two\n", "        ~F2::\n", "        \x7b\n", "            SendMode Input\n",
        "            Send, \x7ba Down\x7d\n", "            Send, \x7ba Up\x7d\n",
        "            reply := SendPipeMessage(\"F2\")\n", "            return\n",
        "        \x7d\n", "        Send, \x7bb Down\x7d\n", "        Send, \x7bb Up\x7d\n",
        "        return\n", "    \x7d\n", "    last\n"] := by
  have htexts : ∀ t ∈ actionsTexts nestedHotkeys, '\r' ∉ t.toList := by decide
  have hfits : GeneratorConfig.default.indentWidth * 1 < UInt64.size := by decide
  obtain ⟨hprinted, hdeep, -, -⟩ :=
    generate_eq_outline ⟨.default, ⟨0⟩⟩ nestedHotkeys (.fresh 8) htexts
  refine ⟨htexts, hfits, hdeep 1 hfits, ?_⟩
  rw [hprinted 1]
  decide +kernel

end KeyBridge
