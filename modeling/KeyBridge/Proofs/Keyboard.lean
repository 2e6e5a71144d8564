-- SUMMARY: A keyboard that types generated text, and what it makes of single statements.
import KeyBridge.Proofs.Words

/-!
# Keyboards

A keyboard types a script line by line: `Send` and `Click` lines put keys down and lift them, and
all other lines do nothing to keys. What a line does is read off its text alone, so that proofs
about keys that stay down are proofs about the text that is generated.
-/

namespace KeyBridge

/-! ## Strokes -/

/-- What a line does to one key: it puts it down, lifts it, or does both. -/
abbrev Stroke := Key × Direction

/-- The key of a label. -/
def keyOf? (w : List Char) : Option Key := Key.all.find? fun k => k.label = some (String.ofList w)

/-- The mouse button of a name for `Click`. -/
def buttonOf? (w : List Char) : Option Key :=
  Key.all.find? fun k => k.clickLabel = some (String.ofList w)

/-- The direction of a word. -/
def directionOf? (w : List Char) : Option Direction :=
  if w = "Down".toList then some .down else if w = "Up".toList then some .up else none

/-- What a part in braces of a `Send` line does: it names a key, and a direction or none. -/
def sendStroke? (group : List Char) : Option Stroke :=
  match Text.words group with
  | [w] => (keyOf? w).map fun k => (k, .both)
  | [w, d] => (keyOf? w).bind fun k => (directionOf? d).map fun d => (k, d)
  | _ => none

/-- What the part in braces of a `Click` line does: after a point, if there is one, it names a
button, and a direction or none. -/
def clickStroke? (group : List Char) : Option Stroke :=
  match (Text.words group).reverse with
  | [] => none
  | [w] => (buttonOf? w).map fun k => (k, .both)
  | d :: w :: _ =>
    match directionOf? d with
    | some d => (buttonOf? w).map fun k => (k, d)
    | none => (buttonOf? d).map fun k => (k, .both)

/-- What a line does to keys. -/
def strokes (line : List Char) : List Stroke :=
  let line := line.dropWhile fun c => c = ' '
  match "Send, ".toList.isPrefixOf? line with
  | some rest => (Text.groups rest).filterMap sendStroke?
  | none =>
    match "Click, ".toList.isPrefixOf? line with
    | some rest => (Text.groups rest).filterMap clickStroke?
    | none => []

/-- What a text does to keys, line by line. -/
def typed (cs : List Char) : List Stroke := (Text.lines cs).flatMap strokes

/-- The keys that are down. -/
abbrev Keyboard := Key → Bool

namespace Keyboard

/-- Nothing is down. -/
def released : Keyboard := fun _ => false

/-- A key that is put down stays down; after any other stroke it is up. -/
def strike (b : Keyboard) (s : Stroke) : Keyboard :=
  fun k => if k = s.1 then s.2 = .down else b k

/-- Types a text. -/
def type (b : Keyboard) (text : String) : Keyboard := (typed text.toList).foldl strike b

end Keyboard

/-! ## Strokes of statements -/

theorem nodup_labels : (Key.all.filterMap Key.label).Nodup := by decide +kernel

theorem nodup_clickLabels : (Key.all.filterMap Key.clickLabel).Nodup := by decide +kernel

/-- A key is found by its word if no two keys have the same word. -/
theorem find?_word {word : Key → Option String} (hnodup : (Key.all.filterMap word).Nodup) {k : Key}
    {l : String} (h : word k = some l) :
    Key.all.find? (fun k => word k = some (String.ofList l.toList)) = some k := by
  obtain ⟨before, after, hall⟩ := List.append_of_mem (Key.mem_all k)
  rw [String.ofList_toList, List.find?_eq_some_iff_append]
  refine ⟨by simp [h], before, after, hall, fun other hother => ?_⟩
  have hpair := List.pairwise_filterMap.1 hnodup
  rw [hall, List.pairwise_append] at hpair
  have hne := hpair.2.2 other hother k List.mem_cons_self
  simp only [Bool.not_eq_true', decide_eq_false_iff_not]
  intro hsame
  exact hne l hsame l h rfl

theorem keyOf?_label {k : Key} {l : String} (h : k.label = some l) : keyOf? l.toList = some k :=
  find?_word nodup_labels h

theorem buttonOf?_clickLabel {k : Key} {l : String} (h : k.clickLabel = some l) :
    buttonOf? l.toList = some k :=
  find?_word nodup_clickLabels h

/-- A button's name is no direction. -/
theorem directionOf?_clickLabel {k : Key} {l : String} (h : k.clickLabel = some l) :
    directionOf? l.toList = none := by
  cases k <;> cases h <;> decide

theorem isWord_token {d : Direction} {token : String} (h : d.token = some token) :
    Text.IsWord token.toList := by
  cases d <;> cases h <;> decide

/-- A direction stands behind the word as a word of its own. -/
theorem toList_withDirection (w : String) (d : Direction) :
    (Statement.withDirection w d).toList =
      match d.token with
      | some token => w.toList ++ ' ' :: token.toList
      | none => w.toList := by
  rcases ht : d.token with _ | token
  · simp [Statement.withDirection, ht]
  · simp [Statement.withDirection, ht]

theorem sendStroke?_withDirection {k : Key} {l : String} (h : k.label = some l) (d : Direction) :
    sendStroke? (Statement.withDirection l d).toList = some (k, d) := by
  have hword := Text.isWord_label h
  rw [sendStroke?, toList_withDirection]
  rcases ht : d.token with _ | token
  · have hboth : d = .both := by cases d <;> first | rfl | cases ht
    simp [Text.words_of_isWord hword, keyOf?_label h, hboth]
  · have hdirection : directionOf? token.toList = some d := by cases d <;> cases ht <;> rfl
    simp [Text.words_append hword, Text.words_of_isWord (isWord_token ht), keyOf?_label h,
      hdirection]

/-- What stands in front of the button does not matter. -/
theorem clickStroke?_withDirection {k : Key} {l : String} (h : k.clickLabel = some l)
    (d : Direction) (before : List Char) (ws : List (List Char))
    (hbefore : ∀ cs, Text.words (before ++ cs) = ws ++ Text.words cs) :
    clickStroke? (before ++ (Statement.withDirection l d).toList) = some (k, d) := by
  have hword := Text.isWord_clickLabel h
  have hbutton := buttonOf?_clickLabel h
  rw [clickStroke?, hbefore, toList_withDirection]
  rcases ht : d.token with _ | token
  · have hboth : d = .both := by cases d <;> first | rfl | cases ht
    rw [Text.words_of_isWord hword, List.reverse_append]
    rcases hrev : ws.reverse with _ | ⟨w, more⟩
    · simp [hbutton, hboth]
    · simp [hbutton, hboth, directionOf?_clickLabel h]
  · have hdirection : directionOf? token.toList = some d := by cases d <;> cases ht <;> rfl
    rw [Text.words_append hword, Text.words_of_isWord (isWord_token ht), List.reverse_append]
    simp [hbutton, hdirection]

/-! ## Statements -/

theorem isPrefixOf?_append (cs rest : List Char) : cs.isPrefixOf? (cs ++ rest) = some rest := by
  induction cs with
  | nil => rfl
  | cons c cs ih => exact (if_pos (beq_self_eq_true c)).trans ih

theorem strokes_send_line {rest : List Char} :
    strokes ("Send, ".toList ++ rest) = (Text.groups rest).filterMap sendStroke? := by
  have hstart : ("Send, ".toList ++ rest).dropWhile (· = ' ') = "Send, ".toList ++ rest := rfl
  rw [strokes, hstart, isPrefixOf?_append]

theorem strokes_click_line {rest : List Char} :
    strokes ("Click, ".toList ++ rest) = (Text.groups rest).filterMap clickStroke? := by
  have hstart : ("Click, ".toList ++ rest).dropWhile (· = ' ') = "Click, ".toList ++ rest := rfl
  have hsend : "Send, ".toList.isPrefixOf? ("Click, ".toList ++ rest) = none := rfl
  rw [strokes, hstart, hsend, isPrefixOf?_append]

theorem toList_braced (inside : String) :
    (Statement.braced inside).toList = '\x7b' :: (inside.toList ++ ['\x7d']) := by
  simp [Statement.braced]

theorem not_mem_close_withDirection {w : String} (hw : Text.IsWord w.toList) (d : Direction) :
    '\x7d' ∉ (Statement.withDirection w d).toList := by
  rw [toList_withDirection]
  rcases ht : d.token with _ | token
  · exact hw.not_mem_close
  · simp [hw.not_mem_close, (isWord_token ht).not_mem_close]

theorem strokes_send (k : Key) (d : Direction) :
    strokes (Statement.send k d).toList = if k.label.isSome then [(k, d)] else [] := by
  unfold Statement.send
  rcases h : k.label with _ | l
  · rfl
  · have hclose := not_mem_close_withDirection (Text.isWord_label h) d
    simp only [String.toList_append, toList_braced, strokes_send_line]
    rw [Text.groups_braced hclose]
    simp [sendStroke?_withDirection h d, Text.groups, Text.groupsFrom]

theorem strokes_click_braced {inside : List Char} {s : Stroke} (hclose : '\x7d' ∉ inside)
    (h : clickStroke? inside = some s) :
    strokes ("Click, ".toList ++ '\x7b' :: (inside ++ ['\x7d'])) = [s] := by
  rw [strokes_click_line, Text.groups_braced hclose]
  simp [h, Text.groups, Text.groupsFrom]

theorem strokes_click (k : Key) (d : Direction) (at? : Option Point) :
    strokes (Statement.click k d at?).toList = if k.isMouse then [(k, d)] else [] := by
  rw [Statement.click, Key.isMouse]
  rcases h : k.clickLabel with _ | l
  · rfl
  · have hclose := not_mem_close_withDirection (Text.isWord_clickLabel h) d
    rcases at? with _ | p
    · have hstroke := clickStroke?_withDirection h d [] [] fun cs => rfl
      have hline := strokes_click_braced hclose hstroke
      simpa [toList_braced, Statement.pointText] using hline
    · have hx := Text.isWord_text p.x
      have hy := Text.isWord_text p.y
      have hstroke := clickStroke?_withDirection h d
        (p.x.text.toList ++ ' ' :: (p.y.text.toList ++ [' ']))
        [p.x.text.toList, p.y.text.toList]
        fun cs => by simp [Text.words_append hx, Text.words_append hy]
      have hline := strokes_click_braced
        (by simp [hclose, hx.not_mem_close, hy.not_mem_close]) hstroke
      simpa [toList_braced, Statement.pointText] using hline

theorem strokes_sleep (d : Duration) : strokes (Statement.sleep d).toList = [] := by
  rw [Statement.sleep, String.toList_append]
  generalize d.millisText.toList = rest
  have hstart : ("Sleep, ".toList ++ rest).dropWhile (· = ' ') = "Sleep, ".toList ++ rest := rfl
  have hsend : "Send, ".toList.isPrefixOf? ("Sleep, ".toList ++ rest) = none := rfl
  have hclick : "Click, ".toList.isPrefixOf? ("Sleep, ".toList ++ rest) = none := rfl
  rw [strokes, hstart, hsend, hclick]

theorem groups_batch (ks : List Key) :
    (Text.groups (Statement.batch ks).toList).filterMap sendStroke?
      = (ks.filter fun k => k.label.isSome).map fun k => (k, .both) := by
  induction ks with
  | nil => rfl
  | cons k ks ih =>
    rcases h : k.label with _ | l
    · simpa [Statement.batch, h] using ih
    · have hgroup := Text.groups_braced (Text.isWord_label h).not_mem_close
        (Statement.batch ks).toList
      have hstroke : sendStroke? l.toList = some (k, .both) := sendStroke?_withDirection h .both
      have hcons : (Statement.batch (k :: ks)).toList
          = '\x7b' :: (l.toList ++ '\x7d' :: (Statement.batch ks).toList) := by
        simp [Statement.batch, h, Statement.braced]
      simp [hcons, hgroup, hstroke, ih, h]

theorem strokes_sendMany (ks : List Key) :
    strokes (Statement.sendMany ks).toList
      = (ks.filter fun k => k.label.isSome).map fun k => (k, .both) := by
  rw [← groups_batch, Statement.sendMany]
  by_cases h : Statement.batch ks = ""
  · simp [h]
    rfl
  · simp only [String.isEmpty_iff, h, if_false, String.toList_append, strokes_send_line]

/-! ## Statements are lines -/

theorem isLine_braced {inside : String} (h : Text.IsLine inside.toList) :
    Text.IsLine (Statement.braced inside).toList := by
  rw [toList_braced]
  simp [h]

theorem isLine_withDirection {w : String} (hw : Text.IsWord w.toList) (d : Direction) :
    Text.IsLine (Statement.withDirection w d).toList := by
  rw [toList_withDirection]
  rcases ht : d.token with _ | token
  · exact hw.isLine
  · simp [hw.isLine, (isWord_token ht).isLine]

theorem isLine_send (k : Key) (d : Direction) : Text.IsLine (Statement.send k d).toList := by
  unfold Statement.send
  rcases h : k.label with _ | l
  · exact Text.isLine_nil
  · have hinside := isLine_braced (isLine_withDirection (Text.isWord_label h) d)
    simp [hinside]

theorem isLine_click (k : Key) (d : Direction) (at? : Option Point) :
    Text.IsLine (Statement.click k d at?).toList := by
  unfold Statement.click
  rcases h : k.clickLabel with _ | l
  · exact Text.isLine_nil
  · have hbutton := isLine_withDirection (Text.isWord_clickLabel h) d
    rcases at? with _ | p
    · simp [toList_braced, Statement.pointText, hbutton]
    · simp [toList_braced, Statement.pointText, hbutton, (Text.isWord_text p.x).isLine,
        (Text.isWord_text p.y).isLine]

theorem isLine_sleep (d : Duration) : Text.IsLine (Statement.sleep d).toList := by
  simp [Statement.sleep, (Text.isWord_millisText d).isLine]

theorem isLine_batch (ks : List Key) : Text.IsLine (Statement.batch ks).toList := by
  induction ks with
  | nil => exact Text.isLine_nil
  | cons k ks ih =>
    rcases h : k.label with _ | l
    · simpa [Statement.batch, h] using ih
    · have hgroup := isLine_braced (Text.isWord_label h).isLine
      have hcons : (Statement.batch (k :: ks)).toList
          = (Statement.braced l).toList ++ (Statement.batch ks).toList := by
        simp [Statement.batch, h]
      rw [hcons]
      exact Text.isLine_append.2 ⟨hgroup, ih⟩

theorem isLine_sendMany (ks : List Key) : Text.IsLine (Statement.sendMany ks).toList := by
  rw [Statement.sendMany]
  split
  · exact Text.isLine_nil
  · simp [isLine_batch ks]

/-! ## Lines of a text -/

theorem strokes_nil : strokes [] = [] := rfl

/-- Indentation does nothing to keys. -/
theorem strokes_replicate (n : Nat) (line : List Char) :
    strokes (List.replicate n ' ' ++ line) = strokes line := by
  induction n with
  | zero => rfl
  | succ n ih =>
    rw [← ih, List.replicate_succ, List.cons_append]
    simp [strokes]

theorem typed_append_newline {w : List Char} (hw : Text.IsLine w) (cs : List Char) :
    typed (w ++ '\n' :: cs) = strokes w ++ typed cs := by
  rw [typed, Text.lines_append_newline hw, List.flatMap_cons, typed]

theorem typed_of_isLine {w : List Char} (hw : Text.IsLine w) : typed w = strokes w := by
  rw [typed, Text.lines_of_isLine hw]
  split
  · rename_i h
    simp [h, strokes_nil]
  · simp

theorem typed_indentBy (n : Nat) {cs : List Char} (h : ∀ l ∈ Text.lines cs, Text.IsLine l)
    (rest : List Char) : typed (Text.indentBy n cs ++ rest) = typed cs ++ typed rest := by
  rw [Text.indentBy, typed.eq_def cs]
  generalize Text.lines cs = ls at h
  induction ls with
  | nil => rfl
  | cons l ls ih =>
    have hl := h l List.mem_cons_self
    have hrest := ih fun x hx => h x (List.mem_cons_of_mem _ hx)
    have hline : Text.IsLine (List.replicate n ' ') := by
      intro c hc
      rw [List.eq_of_mem_replicate hc]
      decide
    simp only [List.flatMap_cons, Text.indentLine, List.append_assoc]
    split
    · rename_i hnil
      have hempty : typed ('\n' :: ((ls.flatMap (Text.indentLine n)) ++ rest))
          = typed ((ls.flatMap (Text.indentLine n)) ++ rest) := by
        simp [typed, strokes_nil]
      rw [List.isEmpty_iff.1 hnil, strokes_nil]
      exact hempty.trans hrest
    · have hpadded := typed_append_newline (Text.isLine_append.2 ⟨hline, hl⟩)
        ((ls.flatMap (Text.indentLine n)) ++ rest)
      rw [strokes_replicate, List.append_assoc] at hpadded
      simp only [List.append_assoc, List.cons_append, List.nil_append]
      rw [hpadded, hrest]

end KeyBridge
