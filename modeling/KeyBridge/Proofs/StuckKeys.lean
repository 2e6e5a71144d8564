-- SUMMARY: Which keys are still down when the text of a sequence of key actions was typed.
import KeyBridge.Generator
import KeyBridge.Proofs.Keyboard

/-!
# Stuck keys

A generator keeps book of the keys that a sequence holds, and lets go of them at the end. The book
and the text agree on every action that has a text for its key. A mouse action on a key that is no
mouse button has none, but counts in the book all the same: `down_iff_stuck` says exactly when that
leaves a key down.
-/

namespace KeyBridge

/-! ## The text of an action -/

/-- What an event of a target does to keys. -/
def Target.strokes : Target → Direction → List Stroke
  | .keyboard k, d => if k.label.isSome then [(k, d)] else []
  | .mouse k _, d => if k.isMouse then [(k, d)] else []
  | .batch _, _ => []

namespace KeyAction

/-- What an action does to keys. -/
def strokes (a : KeyAction) : List Stroke :=
  match a.target with
  | .batch keys => (keys.filter fun k => k.label.isSome).map fun k => (k, .both)
  | target =>
    if a.press then target.strokes .both
    else if a.duration.isZero then target.strokes a.direction
    else target.strokes .down ++ target.strokes .up

theorem strokes_edge (target : Target) (d : Direction) :
    KeyBridge.strokes (edge target d).toList = target.strokes d := by
  cases target with
  | keyboard k => exact strokes_send k d
  | mouse k at? => exact strokes_click k d at?
  | batch keys => rfl

theorem isLine_edge (target : Target) (d : Direction) : Text.IsLine (edge target d).toList := by
  cases target with
  | keyboard k => exact isLine_send k d
  | mouse k at? => exact isLine_click k d at?
  | batch keys => exact Text.isLine_nil

/-- A text whose lines are lines of their own, whatever follows them. -/
def Lined (cs : List Char) : Prop := ∀ l ∈ Text.lines cs, Text.IsLine l

theorem lined_of_isLine {w : List Char} (hw : Text.IsLine w) : Lined w := by
  intro l hl
  rw [Text.lines_of_isLine hw] at hl
  split at hl
  · cases hl
  · rw [List.mem_singleton.1 hl]
    exact hw

/-- The strokes of an event that has no text going down has none going up. -/
theorem typed_timedText (target : Target) (d : Duration) :
    Lined (timedText target d).toList
      ∧ typed (timedText target d).toList = target.strokes .down ++ target.strokes .up := by
  have hdown := isLine_edge target .down
  have hup := isLine_edge target .up
  rw [timedText]
  split
  · rename_i hempty
    have hnone : target.strokes .down = [] := by
      rw [← strokes_edge, String.isEmpty_iff.1 hempty]
      rfl
    have hnone' : target.strokes .up = [] := by
      cases target with
      | keyboard k => simpa [Target.strokes] using hnone
      | mouse k at? => simpa [Target.strokes] using hnone
      | batch keys => rfl
    rw [hnone, hnone']
    exact ⟨fun l hl => (by cases hl), rfl⟩
  · have htext : (String.intercalate "\n"
        [edge target .down, Statement.sleep d, edge target .up]).toList
        = (edge target .down).toList
          ++ '\n' :: ((Statement.sleep d).toList ++ '\n' :: (edge target .up).toList) := by
      simp
    rw [htext]
    constructor
    · intro l hl
      rw [Text.lines_append_newline hdown, Text.lines_append_newline (isLine_sleep d)] at hl
      rcases List.mem_cons.1 hl with rfl | hl
      · exact hdown
      · rcases List.mem_cons.1 hl with rfl | hl
        · exact isLine_sleep d
        · exact lined_of_isLine hup l hl
    · rw [typed_append_newline hdown, typed_append_newline (isLine_sleep d), strokes_sleep,
        typed_of_isLine hup, strokes_edge, strokes_edge, List.nil_append]

theorem typed_edge (target : Target) (d : Direction) :
    Lined (edge target d).toList ∧ typed (edge target d).toList = target.strokes d :=
  ⟨lined_of_isLine (isLine_edge target d),
    (typed_of_isLine (isLine_edge target d)).trans (strokes_edge target d)⟩

/-- The text of an action does what the action says. -/
theorem typed_text (a : KeyAction) : Lined a.text.toList ∧ typed a.text.toList = a.strokes := by
  have hsingle (target : Target) :
      Lined (if a.press then edge target .both
        else if a.duration.isZero then edge target a.direction
        else timedText target a.duration).toList
      ∧ typed (if a.press then edge target .both
          else if a.duration.isZero then edge target a.direction
          else timedText target a.duration).toList
        = if a.press then target.strokes .both
          else if a.duration.isZero then target.strokes a.direction
          else target.strokes .down ++ target.strokes .up := by
    split
    · exact typed_edge target .both
    · split
      · exact typed_edge target a.direction
      · exact typed_timedText target a.duration
  rw [text, strokes]
  cases a.target with
  | keyboard k => exact hsingle (.keyboard k)
  | mouse k at? => exact hsingle (.mouse k at?)
  | batch keys =>
    exact ⟨lined_of_isLine (isLine_sendMany keys),
      (typed_of_isLine (isLine_sendMany keys)).trans (strokes_sendMany keys)⟩

end KeyAction

/-! ## The text of a sequence -/

theorem typed_lettingGo (indentation : Nat) (keys : List Key) :
    typed (lettingGo indentation keys).toList
      = (keys.filter fun k => k.label.isSome).map fun k => (k, .up) := by
  induction keys with
  | nil => rfl
  | cons k keys ih =>
    have hline := isLine_send k .up
    have hcons : (lettingGo indentation (k :: keys)).toList
        = Text.indentBy indentation (Statement.send k .up).toList
          ++ (lettingGo indentation keys).toList := by
      simp [lettingGo]
    rw [hcons, typed_indentBy indentation (KeyAction.lined_of_isLine hline), ih,
      typed_of_isLine hline, strokes_send]
    cases h : k.label.isSome <;> simp [h]

theorem typed_actionsText (width indentation : Nat) (actions : List KeyAction) (rest : List Char) :
    typed ((actionsText width indentation (actions.map .key)).toList ++ rest)
      = actions.flatMap KeyAction.strokes ++ typed rest := by
  induction actions with
  | nil => simp [actionsText]
  | cons a actions ih =>
    obtain ⟨hlined, htyped⟩ := a.typed_text
    have hcons : (actionsText width indentation ((a :: actions).map .key)).toList
        = Text.indentBy indentation a.text.toList
          ++ (actionsText width indentation (actions.map .key)).toList := by
      simp [actionsText, Action.text]
    rw [hcons, List.append_assoc, typed_indentBy indentation hlined, ih, htyped,
      List.flatMap_cons, List.append_assoc]

/-- What the text of a sequence does to keys: what the actions do, and then the keys that are held
by the book go up. -/
theorem typed_sequenceText (width level : Nat) (actions : List KeyAction) :
    typed (sequenceText width level (actions.map .key)).toList
      = actions.flatMap KeyAction.strokes
        ++ ((heldAfter (actions.map .key)).keys.filter fun k => k.label.isSome).map
          fun k => (k, .up) := by
  rw [sequenceText, indentedText, String.toList_append, typed_actionsText, typed_lettingGo]

/-! ## The keys that are down -/

/-- Something holds of an element of a list and what comes before it, and every later element is
harmless. -/
def Latest {α : Type} (p : List α → α → Prop) (harmless : α → Prop) (xs : List α) : Prop :=
  ∃ before x after, xs = before ++ x :: after ∧ p before x ∧ ∀ y ∈ after, harmless y

theorem latest_nil {α : Type} {p : List α → α → Prop} {harmless : α → Prop} :
    ¬ Latest p harmless [] := by
  rintro ⟨before, x, after, h, -⟩
  cases before <;> cases h

theorem latest_concat {α : Type} {p : List α → α → Prop} {harmless : α → Prop} {xs : List α}
    {x : α} : Latest p harmless (xs ++ [x]) ↔ p xs x ∨ (harmless x ∧ Latest p harmless xs) := by
  constructor
  · rintro ⟨before, y, after, h, hp, hafter⟩
    rcases List.eq_nil_or_concat after with rfl | ⟨after, z, rfl⟩
    · obtain ⟨rfl, hx⟩ := List.append_inj' h rfl
      cases hx
      exact .inl hp
    · rw [List.concat_eq_append, ← List.cons_append, ← List.append_assoc] at h
      obtain ⟨rfl, hx⟩ := List.append_inj' h rfl
      cases hx
      refine .inr ⟨hafter x (by simp), before, y, after, rfl, hp, fun w hw => hafter w ?_⟩
      simp [hw]
  · rintro (hp | ⟨hx, before, y, after, rfl, hp, hafter⟩)
    · exact ⟨xs, x, [], rfl, hp, fun y hy => by cases hy⟩
    · refine ⟨before, y, after ++ [x], by simp, hp, fun w hw => ?_⟩
      rcases List.mem_append.1 hw with hw | hw
      · exact hafter w hw
      · rwa [List.mem_singleton.1 hw]

namespace Keyboard

/-- Types the text of key actions one after the other. -/
def after (actions : List KeyAction) : Keyboard :=
  (actions.flatMap KeyAction.strokes).foldl strike released

theorem after_concat (actions : List KeyAction) (a : KeyAction) :
    after (actions ++ [a]) = a.strokes.foldl strike (after actions) := by
  simp [after]

theorem foldl_strike_of_not_mem {strokes : List Stroke} {k : Key} (h : ∀ d, (k, d) ∉ strokes)
    (b : Keyboard) : strokes.foldl strike b k = b k := by
  induction strokes generalizing b with
  | nil => rfl
  | cons s strokes ih =>
    have hne : k ≠ s.1 := fun hk => h s.2 (by rw [hk]; exact List.mem_cons_self)
    rw [List.foldl_cons, ih (fun d hd => h d (List.mem_cons_of_mem _ hd))]
    simp [strike, hne]

/-- Keys that are only lifted or pressed end up released. -/
theorem foldl_strike_map (keys : List Key) {d : Direction} (hd : d ≠ .down) (b : Keyboard)
    (k : Key) : (keys.map fun k => (k, d)).foldl strike b k = (b k && !keys.contains k) := by
  induction keys generalizing b with
  | nil => simp
  | cons x keys ih =>
    rw [List.map_cons, List.foldl_cons, ih]
    by_cases hk : k = x
    · simp [strike, hk, hd]
    · simp [strike, hk]

end Keyboard

namespace KeyAction

variable {a : KeyAction} {k : Key}

/-- An action has a text for a key. -/
def Shows (a : KeyAction) (k : Key) : Prop := ∃ d, (k, d) ∈ a.strokes

/-- An action puts a key down and leaves it so. -/
def PutsDown (a : KeyAction) (k : Key) : Prop := a.strokes = [(k, .down)]

theorem strike_of_not_shows (h : ¬ a.Shows k) (b : Keyboard) :
    a.strokes.foldl Keyboard.strike b k = b k :=
  Keyboard.foldl_strike_of_not_mem (fun d hd => h ⟨d, hd⟩) b

/-- What an action does to its single key. -/
theorem strokes_of_key? {x : Key} (hx : a.key? = some x) :
    a.strokes = [] ∨ a.strokes = [(x, .down), (x, .up)]
      ∨ (a.press = true ∧ a.strokes = [(x, .both)])
      ∨ (a.isTimed = false ∧ a.press = false ∧ a.strokes = [(x, a.direction)]) := by
  obtain ⟨target, d, duration, auto, press⟩ := a
  cases target with
  | batch keys => cases hx
  | keyboard y =>
    cases hx
    cases hl : x.label.isSome <;> cases press <;> cases hz : duration.isZero <;>
      simp [strokes, Target.strokes, isTimed, isBatch, key?, hl, hz]
  | mouse y at? =>
    cases hx
    cases hl : x.isMouse <;> cases press <;> cases hz : duration.isZero <;>
      simp [strokes, Target.strokes, isTimed, isBatch, key?, hl, hz]

/-- A batch presses its keys. -/
theorem strokes_of_batch (hx : a.key? = none) :
    ∃ keys : List Key, a.strokes = keys.map fun k => (k, .both) := by
  obtain ⟨target, direction, duration, auto, press⟩ := a
  cases target with
  | batch keys => exact ⟨_, rfl⟩
  | keyboard k => cases hx
  | mouse k at? => cases hx

theorem PutsDown.key? (h : a.PutsDown k) : a.key? = some k := by
  unfold PutsDown at h
  rcases hx : a.key? with _ | x
  · obtain ⟨keys, hs⟩ := strokes_of_batch hx
    have hmem : (k, Direction.down) ∈ keys.map fun k => (k, Direction.both) := by
      rw [← hs, h]
      exact List.mem_singleton_self _
    simp at hmem
  · rcases strokes_of_key? hx with hs | hs | ⟨-, hs⟩ | ⟨-, -, hs⟩ <;> rw [hs] at h
    · cases h
    · cases h
    · cases h
    · obtain rfl : x = k := congrArg Prod.fst (List.cons.inj h).1
      rfl

theorem strike_of_shows (h : a.Shows k) (b : Keyboard) :
    a.strokes.foldl Keyboard.strike b k = true ↔ a.PutsDown k := by
  obtain ⟨d, hd⟩ := h
  rcases hx : a.key? with _ | x
  · obtain ⟨keys, hs⟩ := strokes_of_batch hx
    obtain ⟨x, hmem, heq⟩ := List.mem_map.1 (hs ▸ hd)
    obtain rfl : x = k := congrArg Prod.fst heq
    have hboth := Keyboard.foldl_strike_map keys (d := .both) (by decide) b x
    rw [hs, hboth]
    constructor
    · intro hdown
      simp [hmem] at hdown
    · intro hdown
      rw [hdown.key?] at hx
      cases hx
  · rcases strokes_of_key? hx with hs | hs | ⟨-, hs⟩ | ⟨-, -, hs⟩ <;> rw [hs] at hd
    · cases hd
    · obtain rfl : k = x := by
        rcases List.mem_cons.1 hd with heq | heq
        · exact congrArg Prod.fst heq
        · exact congrArg Prod.fst (List.mem_singleton.1 heq)
      simp [PutsDown, hs, Keyboard.strike]
    · obtain rfl : k = x := congrArg Prod.fst (List.mem_singleton.1 hd)
      simp [PutsDown, hs, Keyboard.strike]
    · obtain rfl : k = x := congrArg Prod.fst (List.mem_singleton.1 hd)
      simp [PutsDown, hs, Keyboard.strike]

theorem PutsDown.shows (h : a.PutsDown k) : a.Shows k := by
  unfold PutsDown at h
  exact ⟨.down, by rw [h]; exact List.mem_singleton_self _⟩

/-! ## The book -/

/-- What an action makes of its key in the book: held, not held, or as it was. -/
def verdict? (a : KeyAction) : Option Bool :=
  if a.isTimed then some false
  else if a.press then (if a.autoRelease then some true else none)
  else
    match a.direction with
    | .down => some true
    | .up => some false
    | .both => if a.autoRelease then some true else none

theorem mem_afterKey_self (held : KeySet) (h : a.key? = some k) :
    k ∈ (held.afterKey a).keys ↔ a.verdict?.getD (decide (k ∈ held.keys)) = true := by
  rw [KeySet.afterKey, verdict?]
  simp only [h]
  cases a.isTimed <;> cases a.press <;> cases a.direction <;> cases a.autoRelease <;>
    simp [KeySet.afterEdge]

theorem mem_afterKey_ne (held : KeySet) (h : a.key? ≠ some k) :
    k ∈ (held.afterKey a).keys ↔ k ∈ held.keys := by
  unfold KeySet.afterKey
  rcases hx : a.key? with _ | x
  · rfl
  · have hne : k ≠ x := fun hk => h (by rw [hx, hk])
    simp only
    cases a.isTimed <;> cases a.press <;> cases a.direction <;> cases a.autoRelease <;>
      simp [KeySet.afterEdge, hne]

/-- What goes down and stays so is in the book. -/
theorem PutsDown.verdict?_eq (h : a.PutsDown k) : a.verdict? = some true := by
  have hkey := h.key?
  unfold PutsDown at h
  rcases strokes_of_key? hkey with hs | hs | ⟨-, hs⟩ | ⟨htimed, hpress, hs⟩ <;> rw [hs] at h
  · cases h
  · cases h
  · cases h
  · have hdown : a.direction = .down := congrArg Prod.snd (List.cons.inj h).1
    simp [verdict?, htimed, hpress, hdown]

theorem PutsDown.label (h : a.PutsDown k) : k.label.isSome = true := by
  have hkey := h.key?
  unfold PutsDown at h
  obtain ⟨target, direction, duration, auto, press⟩ := a
  cases target with
  | batch keys => cases hkey
  | keyboard x =>
    cases hkey
    cases hl : k.label.isSome with
    | true => rfl
    | false => simp [strokes, Target.strokes, hl] at h
  | mouse x at? =>
    cases hkey
    cases hl : k.isMouse with
    | true => exact Key.label_isSome_of_isMouse hl
    | false => simp [strokes, Target.strokes, hl] at h

/-- A mouse action on a key that is no mouse button. It has no text. -/
def Misses (a : KeyAction) (k : Key) : Prop :=
  (∃ at?, a.target = .mouse k at?) ∧ k.isMouse = false

theorem Misses.key? (h : a.Misses k) : a.key? = some k := by
  obtain ⟨⟨at?, htarget⟩, -⟩ := h
  simp [KeyAction.key?, htarget]

theorem Misses.not_shows (h : a.Misses k) : ¬ a.Shows k := by
  obtain ⟨⟨at?, htarget⟩, hmouse⟩ := h
  rintro ⟨d, hd⟩
  simp [strokes, htarget, Target.strokes, hmouse] at hd

/-- An action without a text for its key misses it, unless the key has no label. -/
theorem misses_of_not_shows (hkey : a.key? = some k) (hshows : ¬ a.Shows k)
    (hlabel : k.label.isSome = true) : a.Misses k := by
  obtain ⟨target, direction, duration, auto, press⟩ := a
  cases target with
  | batch keys => cases hkey
  | keyboard x =>
    cases hkey
    refine absurd ?_ hshows
    cases press <;> cases hz : duration.isZero <;>
      simp [Shows, strokes, Target.strokes, hlabel, hz]
  | mouse x at? =>
    cases hkey
    refine ⟨⟨at?, rfl⟩, ?_⟩
    cases hl : k.isMouse with
    | false => rfl
    | true =>
      refine absurd ?_ hshows
      cases press <;> cases hz : duration.isZero <;>
        simp [Shows, strokes, Target.strokes, hl, hz]

end KeyAction

/-! ## Keys that stay down -/

/-- The last action that has a text for the key puts it down. -/
def LeftDown (k : Key) (actions : List KeyAction) : Prop :=
  Latest (fun _ a => a.PutsDown k) (fun a => ¬ a.Shows k) actions

/-- A key that was put down and not lifted is taken out of the book by an action that misses it,
and neither the text of a later action nor the book comes back to it. -/
def Stuck (k : Key) (actions : List KeyAction) : Prop :=
  Latest (fun before a => LeftDown k before ∧ a.Misses k ∧ a.verdict? = some false)
    (fun a => ¬ a.Shows k ∧ ¬ (a.Misses k ∧ a.verdict? = some true)) actions

variable {k : Key}

theorem leftDown_iff (k : Key) (actions : List KeyAction) :
    Keyboard.after actions k = true ↔ LeftDown k actions := by
  obtain ⟨backwards, rfl⟩ : ∃ backwards, actions = backwards.reverse :=
    ⟨actions.reverse, by simp⟩
  induction backwards with
  | nil => exact ⟨fun h => (by cases h), fun h => absurd h latest_nil⟩
  | cons a backwards ih =>
    rw [List.reverse_cons, LeftDown, latest_concat, Keyboard.after_concat]
    by_cases hshows : a.Shows k
    · rw [KeyAction.strike_of_shows hshows]
      exact ⟨.inl, fun h => h.elim id fun h => absurd hshows h.1⟩
    · rw [KeyAction.strike_of_not_shows hshows, ih]
      exact ⟨fun h => .inr ⟨hshows, h⟩, fun h => h.elim (fun h => absurd h.shows hshows) And.right⟩

theorem LeftDown.label {actions : List KeyAction} (h : LeftDown k actions) :
    k.label.isSome = true := by
  obtain ⟨before, a, after, -, hdown, -⟩ := h
  exact hdown.label

theorem heldAfter_concat (actions : List KeyAction) (a : KeyAction) :
    heldAfter ((actions ++ [a]).map .key) = (heldAfter (actions.map .key)).afterKey a := by
  simp [heldAfter, KeySet.afterAction]

/-- The key is down and not in the book exactly if it is stuck. -/
theorem stuck_iff (k : Key) (actions : List KeyAction) :
    (LeftDown k actions ∧ k ∉ (heldAfter (actions.map .key)).keys) ↔ Stuck k actions := by
  obtain ⟨backwards, rfl⟩ : ∃ backwards, actions = backwards.reverse :=
    ⟨actions.reverse, by simp⟩
  induction backwards with
  | nil => exact ⟨fun h => absurd h.1 latest_nil, fun h => absurd h latest_nil⟩
  | cons a backwards ih =>
    rw [List.reverse_cons, heldAfter_concat, Stuck, latest_concat, LeftDown, latest_concat]
    by_cases hshows : a.Shows k
    · -- The text and the book agree on the key.
      constructor
      · rintro ⟨hdown | hdown, hheld⟩
        · rw [KeyAction.mem_afterKey_self _ hdown.key?, hdown.verdict?_eq] at hheld
          exact absurd rfl hheld
        · exact absurd hshows hdown.1
      · rintro (⟨-, hmisses, -⟩ | ⟨hhides, -⟩)
        · exact absurd hshows hmisses.not_shows
        · exact absurd hshows hhides.1
    · have hdown : (a.PutsDown k ∨ (¬ a.Shows k ∧ LeftDown k backwards.reverse))
          ↔ LeftDown k backwards.reverse :=
        ⟨fun h => h.elim (fun h => absurd h.shows hshows) And.right, fun h => .inr ⟨hshows, h⟩⟩
      rw [← LeftDown, ← Stuck, hdown, ← ih]
      by_cases hmisses : a.Misses k
      · rw [KeyAction.mem_afterKey_self _ hmisses.key?]
        cases a.verdict? with
        | none => simp [hshows, hmisses]
        | some held =>
          cases held with
          | true => simp [hmisses]
          | false =>
            simp only [hmisses, Option.getD_some, true_and, and_true]
            exact ⟨fun h => .inl h.1, fun h => h.elim (fun h => ⟨h, by simp⟩) fun h => ⟨h.2.1, by simp⟩⟩
      · by_cases hkey : a.key? = some k
        · -- Only a key without a label is neither shown nor missed, and such a key never goes down.
          have hnever : ¬ LeftDown k backwards.reverse := fun h =>
            hmisses (KeyAction.misses_of_not_shows hkey hshows h.label)
          simp [hnever]
        · rw [KeyAction.mem_afterKey_ne _ hkey]
          simp [hshows, hmisses]

theorem type_sequenceText (width level : Nat) (actions : List KeyAction) (k : Key) :
    Keyboard.released.type (sequenceText width level (actions.map .key)) k = true
      ↔ Stuck k actions := by
  rw [Keyboard.type, typed_sequenceText, List.foldl_append,
    Keyboard.foldl_strike_map _ (by decide), ← stuck_iff, ← leftDown_iff, Keyboard.after]
  simp only [Bool.and_eq_true, Bool.not_eq_true', List.contains_eq_mem, decide_eq_false_iff_not,
    List.mem_filter, not_and]
  constructor
  · rintro ⟨hdown, hheld⟩
    have hlabel := ((leftDown_iff k actions).1 hdown).label
    exact ⟨hdown, fun hmem => hheld hmem hlabel⟩
  · rintro ⟨hdown, hheld⟩
    exact ⟨hdown, fun hmem => absurd hmem hheld⟩

theorem not_stuck_of_not_misses {actions : List KeyAction}
    (h : ∀ a ∈ actions, ¬ a.Misses k) : ¬ Stuck k actions := by
  rintro ⟨before, a, after, rfl, ⟨-, hmisses, -⟩, -⟩
  exact h a (by simp) hmisses

/-- A generated block leaves exactly its stuck keys down, and none if its mouse actions name mouse
buttons. -/
theorem down_iff_stuck (g : Generator) (actions : List KeyAction) (level : Nat) (host : Host) :
    (∀ k, Keyboard.released.type (g.generate (actions.map .key) level host).1 k = true
      ↔ Stuck k actions)
    ∧ ((∀ a ∈ actions, ∀ k, ¬ a.Misses k) →
      ∀ k, Keyboard.released.type (g.generate (actions.map .key) level host).1 k = false) := by
  refine ⟨fun k => type_sequenceText _ _ actions k, fun hmouse k => ?_⟩
  rw [Bool.eq_false_iff, Ne, Generator.generate, type_sequenceText]
  exact not_stuck_of_not_misses fun a ha => hmouse a ha k

/-- A mouse button event for a letter: it types nothing, and the letter stays down. -/
theorem letter_stuck :
    (∀ a ∈ [KeyAction.down .letterB, .pressKey .letterA], ∀ k, ¬ a.Misses k)
    ∧ Keyboard.released.type (Generator.generate ⟨.default, ⟨0⟩⟩
        ([KeyAction.down .letterA, .mouseUp .letterA].map .key) 0 (.fresh 8)).1 .letterA = true
    ∧ Keyboard.released.type (Generator.generate ⟨.default, ⟨0⟩⟩
        ([KeyAction.down .letterB, .pressKey .letterA].map .key) 0 (.fresh 8)).1 .letterB = false := by
  have hnone : ∀ a ∈ [KeyAction.down .letterB, .pressKey .letterA], ∀ k, ¬ a.Misses k := by
    rintro a ha k ⟨⟨at?, htarget⟩, -⟩
    simp only [List.mem_cons, List.not_mem_nil, or_false] at ha
    rcases ha with rfl | rfl <;> cases htarget
  refine ⟨hnone, ?_, (down_iff_stuck _ _ 0 _).2 hnone .letterB⟩
  apply ((down_iff_stuck _ _ 0 _).1 .letterA).2
  refine ⟨[.down .letterA], .mouseUp .letterA, [], rfl, ⟨?_, ⟨⟨none, rfl⟩, rfl⟩, rfl⟩, by simp⟩
  exact ⟨[], .down .letterA, [], rfl, rfl, by simp⟩

end KeyBridge
