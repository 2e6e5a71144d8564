-- SUMMARY: Which keys a sequence of actions lets go of at its end, and in which order.
import KeyBridge.Proofs.Releases

/-!
# Letting go

The book of a sequence is kept action by action. Seen from the end, a key is in it exactly if an
action has marked it and none has removed it since, and its place in the book is that of the first
such mark. The text of a sequence ends with one line for each key in the book that has a label
(`generate_lets_go`).
-/

namespace KeyBridge

/-! ## Marks and removals -/

namespace KeyAction

/-- A key action as it can be made and changed. -/
inductive Made : KeyAction → Prop where
  | down (k : Key) : Made (down k)
  | downFor (k : Key) (d : Duration) : Made (downFor k d)
  | up (k : Key) : Made (up k)
  | pressKey (k : Key) : Made (pressKey k)
  | send (keys : List Key) : Made (send keys)
  | mouseDown (k : Key) : Made (mouseDown k)
  | mouseDownFor (k : Key) (d : Duration) : Made (mouseDownFor k d)
  | mouseUp (k : Key) : Made (mouseUp k)
  | mousePress (k : Key) : Made (mousePress k)
  | withAutoRelease {a : KeyAction} (yes : Bool) : Made a → Made (a.withAutoRelease yes)
  | atPoint {a : KeyAction} (p : Point) : Made a → Made (a.atPoint p)

/-- Whether an action marks a key: it presses the key and asks for it to be let go, or the key goes
down and stays down. -/
def marks (a : KeyAction) (k : Key) : Bool :=
  a.key? = some k && !a.isTimed
    && ((a.autoRelease && a.press) || (a.direction = .down && !a.press))

/-- Whether an action removes a key: the key goes up, by itself after some time or at once. -/
def removes (a : KeyAction) (k : Key) : Bool :=
  a.key? = some k && (a.isTimed || (a.direction = .up && !a.press))

variable {a : KeyAction} {k : Key}

theorem key?_atPoint (a : KeyAction) (p : Point) : (a.atPoint p).key? = a.key? := by
  rw [atPoint]
  split
  · rename_i htarget
    simp [key?, htarget]
  · rfl

theorem direction_atPoint (a : KeyAction) (p : Point) : (a.atPoint p).direction = a.direction := by
  rw [atPoint]
  split <;> rfl

/-- An action on a single key has an edge. -/
theorem Made.direction_ne (h : a.Made) (hkey : a.key? = some k) : a.direction ≠ .both := by
  induction h with
  | send keys => cases hkey
  | withAutoRelease yes _ ih => exact ih hkey
  | atPoint p _ ih =>
    rw [key?_atPoint] at hkey
    rw [direction_atPoint]
    exact ih hkey
  | _ => exact Direction.noConfusion

theorem key?_of_marks (h : a.marks k = true) : a.key? = some k := by
  simp only [marks, Bool.and_eq_true, decide_eq_true_eq] at h
  exact h.1.1

/-- An action that marks a key removes none. -/
theorem removes_of_marks (h : a.marks k = true) (k' : Key) : a.removes k' = false := by
  simp only [marks, Bool.and_eq_true, Bool.or_eq_true, Bool.not_eq_true', decide_eq_true_eq] at h
  obtain ⟨⟨-, htimed⟩, ⟨-, hpress⟩ | ⟨hdown, -⟩⟩ := h
  · simp [removes, htimed, hpress]
  · simp [removes, htimed, hdown]

end KeyAction

namespace KeySet

theorem insert_insert (s : KeySet) (k : Key) : (s.insert k).insert k = s.insert k := by
  have hmem : k ∈ (s.insert k).keys := by simp
  exact dif_pos hmem

theorem erase_insert (s : KeySet) (k : Key) : ((s.insert k).erase k).keys = (s.erase k).keys := by
  rw [keys_erase, keys_erase, keys_insert]
  split
  · rfl
  · simp

theorem keys_eraseAll (s : KeySet) (ks : List Key) :
    (s.eraseAll ks).keys = s.keys.filter (· ∉ ks) := by
  induction ks generalizing s with
  | nil => exact (List.filter_eq_self.2 (by simp)).symm
  | cons k ks ih =>
    have hrest := ih (s.erase k)
    rw [keys_erase, List.filter_filter] at hrest
    rw [eraseAll, List.foldl_cons, ← eraseAll, hrest]
    apply List.filter_congr
    intro a _
    simp [Bool.and_comm]

theorem afterKey_of_marks {a : KeyAction} {k : Key} (h : a.marks k = true) (held : KeySet) :
    held.afterKey a = held.insert k := by
  have hkey := KeyAction.key?_of_marks h
  simp only [KeyAction.marks, Bool.and_eq_true, Bool.or_eq_true, Bool.not_eq_true',
    decide_eq_true_eq] at h
  obtain ⟨⟨-, htimed⟩, ⟨hauto, hpress⟩ | ⟨hdown, hpress⟩⟩ := h
  · simp [afterKey, hkey, htimed, hauto, hpress]
  · cases hauto : a.autoRelease <;>
      simp [afterKey, hkey, htimed, hauto, hpress, hdown, afterEdge, insert_insert]

/-- An action that does not mark its key takes it out, or leaves the book as it is. -/
theorem keys_afterKey_self {a : KeyAction} {k : Key} (hmade : a.Made) (hkey : a.key? = some k)
    (h : a.marks k = false) (held : KeySet) :
    (held.afterKey a).keys = if a.removes k then (held.erase k).keys else held.keys := by
  have hedge := hmade.direction_ne hkey
  cases htimed : a.isTimed with
  | true => simp [afterKey, KeyAction.removes, hkey, htimed]
  | false =>
    cases hpress : a.press with
    | true =>
      have hauto : a.autoRelease = false := by
        simpa [KeyAction.marks, hkey, htimed, hpress] using h
      simp [afterKey, KeyAction.removes, hkey, htimed, hpress, hauto]
    | false =>
      cases hd : a.direction with
      | down => simp [KeyAction.marks, hkey, htimed, hpress, hd] at h
      | both => exact absurd hd hedge
      | up =>
        cases hauto : a.autoRelease
        · simp [afterKey, KeyAction.removes, hkey, htimed, hpress, hauto, hd, afterEdge]
        · have hup : held.afterKey a = (held.insert k).erase k := by
            simp [afterKey, hkey, htimed, hpress, hauto, hd, afterEdge]
          rw [hup, erase_insert]
          simp [KeyAction.removes, hkey, hpress, hd]

/-- An action that marks nothing takes out what it removes. -/
theorem keys_afterKey {a : KeyAction} (hmade : a.Made) (h : ∀ k, a.marks k = false)
    (held : KeySet) : (held.afterKey a).keys = held.keys.filter fun k => !a.removes k := by
  have hsame {ks : List Key} (hno : ∀ k, a.removes k = false) :
      ks = ks.filter fun k => !a.removes k := (List.filter_eq_self.2 (by simp [hno])).symm
  rcases hkey : a.key? with _ | k
  · have hafter : held.afterKey a = held := by simp [afterKey, hkey]
    rw [hafter]
    exact hsame fun k => by simp [KeyAction.removes, hkey]
  · have hother : ∀ k', k' ≠ k → a.removes k' = false := by
      intro k' hne
      simp [KeyAction.removes, hkey, Ne.symm hne]
    rw [keys_afterKey_self hmade hkey (h k)]
    cases hremoves : a.removes k with
    | false =>
      refine hsame fun k' => ?_
      by_cases hk : k' = k
      · rw [hk, hremoves]
      · exact hother k' hk
    | true =>
      rw [if_pos rfl, keys_erase]
      apply List.filter_congr
      intro k' _
      by_cases hk : k' = k
      · simp [hk, hremoves]
      · simp [hk, hother k' hk]

end KeySet

namespace Action

/-- Whether an action marks a key. -/
def marks : Action → Key → Bool
  | .key a, k => a.marks k
  | _, _ => false

/-- Whether an action removes a key. -/
def removes : Action → Key → Bool
  | .key a, k => a.removes k
  | .release r, k => r.covers k
  | _, _ => false

/-- Key actions are made as they can be. -/
def Made : Action → Prop
  | .key a => a.Made
  | _ => True

variable {a : Action} {k : Key}

theorem removes_of_marks (h : a.marks k = true) (k' : Key) : a.removes k' = false := by
  cases a with
  | key a => exact KeyAction.removes_of_marks h k'
  | _ => cases h

theorem eq_of_marks {k' : Key} (h : a.marks k = true) (h' : a.marks k' = true) : k' = k := by
  cases a with
  | key a =>
    exact Option.some.inj ((KeyAction.key?_of_marks h').symm.trans (KeyAction.key?_of_marks h))
  | _ => cases h

end Action

namespace KeySet

variable {a : Action} {k : Key}

theorem afterAction_of_marks (h : a.marks k = true) (held : KeySet) :
    held.afterAction a = held.insert k := by
  cases a with
  | key a => exact afterKey_of_marks h held
  | _ => cases h

theorem keys_afterRelease (held : KeySet) (r : Release) :
    (held.afterRelease r).keys = held.keys.filter fun k => !r.covers k := by
  rw [afterRelease]
  cases hall : r.all with
  | true => simp [Release.covers, hall]
  | false =>
    have hcovers (k : Key) : (!r.covers k) = decide (k ∉ r.keys.keys) := by
      simp [Release.covers, hall, contains]
    simp [hcovers, keys_eraseAll]

theorem keys_afterAction (hmade : a.Made) (h : ∀ k, a.marks k = false) (held : KeySet) :
    (held.afterAction a).keys = held.keys.filter fun k => !a.removes k := by
  cases a with
  | key a => exact keys_afterKey hmade h held
  | release r => exact keys_afterRelease held r
  | raw code => exact (List.filter_eq_self.2 fun _ _ => rfl).symm
  | hotkey b body => exact (List.filter_eq_self.2 fun _ _ => rfl).symm

/-- A key is in the book if it is marked, or was there and is not removed. -/
theorem mem_afterAction (hmade : a.Made) (held : KeySet) (k : Key) :
    k ∈ (held.afterAction a).keys
      ↔ (k ∈ held.keys ∧ a.removes k = false) ∨ a.marks k = true := by
  by_cases hmarks : ∃ k', a.marks k' = true
  · obtain ⟨k', hk'⟩ := hmarks
    rw [afterAction_of_marks hk', mem_insert, Action.removes_of_marks hk' k]
    have hsame : a.marks k = true ↔ k = k' :=
      ⟨fun hk => Action.eq_of_marks hk' hk, fun hk => hk ▸ hk'⟩
    simp [hsame]
  · have hnone : ∀ k, a.marks k = false := fun k =>
      Bool.eq_false_iff.2 fun hk => hmarks ⟨k, hk⟩
    simp [keys_afterAction hmade hnone, hnone]

end KeySet

/-! ## Histories -/

/-- The action at a place of a list marks a key. -/
def MarkedAt (actions : List Action) (k : Key) (i : Nat) : Prop :=
  ∃ a, actions[i]? = some a ∧ a.marks k = true

/-- An action after a place of a list removes a key. -/
def RemovedAfter (actions : List Action) (k : Key) (i : Nat) : Prop :=
  ∃ j a, i < j ∧ actions[j]? = some a ∧ a.removes k = true

/-- A place holds the earliest mark of a key after its last removal. -/
structure HeldFrom (actions : List Action) (k : Key) (i : Nat) : Prop where
  marked : MarkedAt actions k i
  kept : ¬ RemovedAfter actions k i
  earliest : ∀ j < i, MarkedAt actions k j → RemovedAfter actions k j

section

variable {actions : List Action} {a : Action} {k : Key} {i : Nat}

theorem getElem?_concat_iff {α : Type} {xs : List α} {x y : α} {i : Nat} :
    (xs ++ [x])[i]? = some y ↔ xs[i]? = some y ∨ (i = xs.length ∧ x = y) := by
  rcases Nat.lt_trichotomy i xs.length with hlt | rfl | hgt
  · simp [List.getElem?_append_left hlt, Nat.ne_of_lt hlt]
  · simp
  · have hlong : (xs ++ [x]).length ≤ i := by
      rw [List.length_append]
      exact hgt
    simp [List.getElem?_eq_none hlong, List.getElem?_eq_none (Nat.le_of_lt hgt), Nat.ne_of_gt hgt]

theorem MarkedAt.lt (h : MarkedAt actions k i) : i < actions.length := by
  obtain ⟨a, ha, -⟩ := h
  exact (List.getElem?_eq_some_iff.1 ha).1

theorem markedAt_concat : MarkedAt (actions ++ [a]) k i
    ↔ MarkedAt actions k i ∨ (i = actions.length ∧ a.marks k = true) := by
  simp only [MarkedAt, getElem?_concat_iff, or_and_right, exists_or]
  refine or_congr_right ?_
  constructor
  · rintro ⟨b, ⟨hi, rfl⟩, hmarks⟩
    exact ⟨hi, hmarks⟩
  · rintro ⟨hi, hmarks⟩
    exact ⟨a, ⟨hi, rfl⟩, hmarks⟩

theorem removedAfter_concat : RemovedAfter (actions ++ [a]) k i
    ↔ RemovedAfter actions k i ∨ (i < actions.length ∧ a.removes k = true) := by
  constructor
  · rintro ⟨j, b, hij, hb, hremoves⟩
    rcases getElem?_concat_iff.1 hb with hb | ⟨rfl, rfl⟩
    · exact .inl ⟨j, b, hij, hb, hremoves⟩
    · exact .inr ⟨hij, hremoves⟩
  · rintro (⟨j, b, hij, hb, hremoves⟩ | ⟨hi, hremoves⟩)
    · exact ⟨j, b, hij, getElem?_concat_iff.2 (.inl hb), hremoves⟩
    · exact ⟨actions.length, a, hi, getElem?_concat_iff.2 (.inr ⟨rfl, rfl⟩), hremoves⟩

/-- A mark stands after one more action if it stood and its key is not removed, or is made now. -/
theorem stands_concat : (MarkedAt (actions ++ [a]) k i ∧ ¬ RemovedAfter (actions ++ [a]) k i)
    ↔ (MarkedAt actions k i ∧ ¬ RemovedAfter actions k i) ∧ a.removes k = false
      ∨ (i = actions.length ∧ a.marks k = true) := by
  rw [markedAt_concat, removedAfter_concat]
  constructor
  · rintro ⟨hmarked | hnew, hkept⟩
    · refine .inl ⟨⟨hmarked, fun h => hkept (.inl h)⟩, Bool.eq_false_iff.2 fun h => ?_⟩
      exact hkept (.inr ⟨hmarked.lt, h⟩)
    · exact .inr hnew
  · rintro (⟨⟨hmarked, hkept⟩, hremoves⟩ | ⟨rfl, hmarks⟩)
    · refine ⟨.inl hmarked, ?_⟩
      rintro (h | ⟨-, h⟩)
      · exact hkept h
      · rw [hremoves] at h
        cases h
    · refine ⟨.inr ⟨rfl, hmarks⟩, ?_⟩
      rintro (⟨j, b, hlt, hb, -⟩ | ⟨hlt, -⟩)
      · have hj := (List.getElem?_eq_some_iff.1 hb).1
        omega
      · omega

/-- A key is in the book exactly if an action has marked it and none has removed it since. -/
theorem mem_heldAfter_iff (actions : List Action) (hmade : ∀ a ∈ actions, a.Made) (k : Key) :
    k ∈ (heldAfter actions).keys
      ↔ ∃ i, MarkedAt actions k i ∧ ¬ RemovedAfter actions k i := by
  obtain ⟨backwards, rfl⟩ : ∃ backwards, actions = backwards.reverse :=
    ⟨actions.reverse, by simp⟩
  induction backwards with
  | nil =>
    constructor
    · intro h
      cases h
    · rintro ⟨i, ⟨a, ha, -⟩, -⟩
      cases ha
  | cons a backwards ih =>
    rw [List.reverse_cons] at hmade ⊢
    have hprevious := ih fun x hx => hmade x (List.mem_append_left _ hx)
    simp only [heldAfter_append_singleton, KeySet.mem_afterAction (hmade a (by simp)), hprevious,
      stands_concat, exists_or, exists_and_right]
    simp

/-- A mark that stands is, or has before it, the earliest one after the last removal. -/
theorem exists_heldFrom (hmarked : MarkedAt actions k i) (hkept : ¬ RemovedAfter actions k i) :
    ∃ j, HeldFrom actions k j := by
  induction i using Nat.strongRecOn with
  | _ i ih =>
    by_cases hearlier : ∃ j < i, MarkedAt actions k j ∧ ¬ RemovedAfter actions k j
    · obtain ⟨j, hj, hmarked', hkept'⟩ := hearlier
      exact ih j hj hmarked' hkept'
    · refine ⟨i, hmarked, hkept, fun j hj hmark => ?_⟩
      exact Classical.byContradiction fun hnot => hearlier ⟨j, hj, hmark, hnot⟩

/-- The place of a key that was in the book before stays the same. -/
theorem HeldFrom.of_concat (hmade : ∀ a ∈ actions, a.Made) (hheld : k ∈ (heldAfter actions).keys)
    (h : HeldFrom (actions ++ [a]) k i) : HeldFrom actions k i := by
  obtain ⟨j, hmarked, hkept⟩ := (mem_heldAfter_iff actions hmade k).1 hheld
  have hfirst {i' : Nat} (hi : i' < i) (hmark : MarkedAt actions k i') :
      RemovedAfter (actions ++ [a]) k i' := h.earliest i' hi (markedAt_concat.2 (.inl hmark))
  rcases stands_concat.1 ⟨h.marked, h.kept⟩ with ⟨⟨hmark, hstays⟩, hremoves⟩ | ⟨rfl, hmark⟩
  · refine ⟨hmark, hstays, fun i' hi hmark' => ?_⟩
    rcases removedAfter_concat.1 (hfirst hi hmark') with hremoved | ⟨-, hnot⟩
    · exact hremoved
    · rw [hremoves] at hnot
      cases hnot
  · -- A mark that stands already is earlier than one that is made now.
    rcases removedAfter_concat.1 (hfirst hmarked.lt hmarked) with hremoved | ⟨-, hnot⟩
    · exact absurd hremoved hkept
    · rw [Action.removes_of_marks hmark] at hnot
      cases hnot

/-- The book is in the order of the places from which its keys are held. -/
theorem heldAfter_inOrder (actions : List Action) (hmade : ∀ a ∈ actions, a.Made) :
    (heldAfter actions).keys.Pairwise fun k k' =>
      ∀ i i', HeldFrom actions k i → HeldFrom actions k' i' → i < i' := by
  obtain ⟨backwards, rfl⟩ : ∃ backwards, actions = backwards.reverse :=
    ⟨actions.reverse, by simp⟩
  induction backwards with
  | nil => exact List.Pairwise.nil
  | cons a backwards ih =>
    rw [List.reverse_cons] at hmade ⊢
    have hearlier : ∀ x ∈ backwards.reverse, x.Made := fun x hx =>
      hmade x (List.mem_append_left _ hx)
    have hold : (heldAfter backwards.reverse).keys.Pairwise fun k k' => ∀ i i',
        HeldFrom (backwards.reverse ++ [a]) k i → HeldFrom (backwards.reverse ++ [a]) k' i'
          → i < i' := by
      refine (ih hearlier).imp_of_mem fun hk hk' hlt i i' hi hi' => ?_
      exact hlt i i' (hi.of_concat hearlier hk) (hi'.of_concat hearlier hk')
    rw [heldAfter_append_singleton]
    by_cases hmarks : ∃ k, a.marks k = true
    · obtain ⟨k, hk⟩ := hmarks
      rw [KeySet.afterAction_of_marks hk, KeySet.keys_insert]
      split
      · exact hold
      · rename_i hnew
        -- The new key is held from the last place.
        refine List.pairwise_append.2 ⟨hold, List.pairwise_singleton _ _, ?_⟩
        intro k₀ hk₀ k' hk' i i' hi hi'
        rw [List.mem_singleton.1 hk'] at hi'
        have hlt := (hi.of_concat hearlier hk₀).marked.lt
        rcases stands_concat.1 ⟨hi'.marked, hi'.kept⟩ with ⟨hstands, -⟩ | ⟨rfl, -⟩
        · exact absurd ((mem_heldAfter_iff _ hearlier k).2 ⟨i', hstands⟩) hnew
        · exact hlt
    · have hnone : ∀ k, a.marks k = false := fun k =>
        Bool.eq_false_iff.2 fun hk => hmarks ⟨k, hk⟩
      rw [KeySet.keys_afterAction (hmade a (by simp)) hnone]
      exact hold.filter _

end

/-! ## The end of the text -/

/-- The line that lets go of a key with a label. -/
def releaseLine (indentation : Nat) (label : String) : String :=
  String.ofList (List.replicate indentation ' ') ++ "Send, \x7b" ++ label ++ " Up\x7d\n"

theorem indent_send_up {k : Key} {label : String} (h : k.label = some label) (indentation : Nat) :
    Text.indent indentation (Statement.send k .up) = releaseLine indentation label := by
  have htext : (Statement.send k .up).toList
      = 'S' :: ("end, \x7b".toList ++ (label.toList ++ " Up\x7d".toList)) := by
    simp [Statement.send, h, Statement.braced, Statement.withDirection, Direction.token]
  have hlines := Text.lines_of_isLine (isLine_send k .up)
  apply String.toList_inj.1
  rw [Text.toList_indent, Text.indentBy, hlines, htext]
  simp [Text.indentLine, releaseLine]

theorem lettingGo_eq (indentation : Nat) (keys : List Key) : lettingGo indentation keys
    = String.join ((keys.filterMap Key.label).map (releaseLine indentation)) := by
  have hnothing : Text.indent indentation "" = "" := rfl
  induction keys with
  | nil => rfl
  | cons k keys ih =>
    have hcons : lettingGo indentation (k :: keys)
        = Text.indent indentation (Statement.send k .up) ++ lettingGo indentation keys := by
      simp [lettingGo]
    rw [hcons, ih]
    rcases hlabel : k.label with _ | label
    · have hsend : Statement.send k .up = "" := by simp [Statement.send, hlabel]
      simp [hsend, hnothing, hlabel]
    · rw [indent_send_up hlabel, List.filterMap_cons, hlabel]
      simp

theorem actionsText_eq (width indentation : Nat) (actions : List Action) :
    actionsText width indentation actions
      = String.join (actions.map fun a => Text.indent indentation (a.text width)) := by
  induction actions with
  | nil => rfl
  | cons a actions ih => simp [actionsText, ih]

/-- The book takes no notice of hotkeys, whatever they hold inside. -/
theorem heldAfter_hotkey (before after : List Action) (b : Binding) (body : List Action) :
    heldAfter (before ++ .hotkey b body :: after) = heldAfter (before ++ after) := by
  simp [heldAfter, KeySet.afterAction]

/-- After a sequence of actions exactly those keys are in the book that an action has marked and
none has removed since, each once and in the order of the earliest mark after its last removal. The
text of the sequence is that of its actions, and then one line for each key in the book that has a
label, in that order and at the level of the sequence. What is held inside of a hotkey is not in the
book. -/
theorem generate_lets_go (g : Generator) (actions : List Action) (level : Nat) (host : Host)
    (hmade : ∀ a ∈ actions, a.Made) :
    let held := (heldAfter actions).keys
    let spaces := indentation g.config.indentWidth level
    (∀ k, k ∈ held ↔ ∃ i, MarkedAt actions k i ∧ ¬ RemovedAfter actions k i)
    ∧ held.Nodup
    ∧ (∀ k ∈ held, ∃ i, HeldFrom actions k i)
    ∧ held.Pairwise (fun k k' => ∀ i i', HeldFrom actions k i → HeldFrom actions k' i' → i < i')
    ∧ (g.generate actions level host).1
      = String.join (actions.map fun a => Text.indent spaces (g.render a host).1)
        ++ String.join ((held.filterMap Key.label).map (releaseLine spaces))
    ∧ ∀ before b body after, actions = before ++ .hotkey b body :: after →
      heldAfter (before ++ after) = heldAfter actions := by
  intro held spaces
  have hmem := mem_heldAfter_iff actions hmade
  refine ⟨hmem, (heldAfter actions).nodup, ?_, heldAfter_inOrder actions hmade, ?_, ?_⟩
  · intro k hk
    obtain ⟨i, hmarked, hkept⟩ := (hmem k).1 hk
    exact exists_heldFrom hmarked hkept
  · rw [← lettingGo_eq]
    exact congrArg (· ++ lettingGo spaces held) (actionsText_eq _ _ actions)
  · rintro before b body after rfl
    exact (heldAfter_hotkey before after b body).symm

/-- Keys are marked twice, lifted and marked again, pressed and given up; a hotkey holds its own. -/
def medley : List Action :=
  [.key (.down .letterC), .key (.down .letterA), .key (.down .letterC), .key (.up .letterA),
    .key (.pressKey .letterB), .key (.downFor .letterE (.ofMillis 5)), .key (.down .windows),
    .hotkey (Hotkey.ofTrigger (.key .f1) []).toBinding [.key (.down .letterD)],
    .key ((KeyAction.down .letterA).withAutoRelease false), .release (.ofKeys [.letterC])]

theorem medley_lets_go :
    (heldAfter medley).keys = [.letterB, .windows, .letterA]
    ∧ (∃ i, HeldFrom medley .letterA i)
    ∧ (¬ ∃ i, MarkedAt medley .letterD i ∧ ¬ RemovedAfter medley .letterD i)
    ∧ ∃ text, (Generator.generate ⟨.default, ⟨0⟩⟩ medley 1 (.fresh 8)).1
      = text ++ "    Send, \x7bb Up\x7d\n    Send, \x7ba Up\x7d\n" := by
  have hmade : ∀ a ∈ medley, a.Made := by
    simp only [medley, List.forall_mem_cons, List.not_mem_nil, false_implies, implies_true,
      and_true]
    exact ⟨.down _, .down _, .down _, .up _, .pressKey _, .downFor _ _, .down _, trivial,
      .withAutoRelease _ (.down _), trivial⟩
  have hheld : (heldAfter medley).keys = [.letterB, .windows, .letterA] := by decide +kernel
  obtain ⟨hmem, -, hfrom, -, htext, -⟩ :=
    generate_lets_go ⟨.default, ⟨0⟩⟩ medley 1 (.fresh 8) hmade
  refine ⟨hheld, hfrom .letterA (by simp [hheld]), ?_, ?_⟩
  · rw [← hmem, hheld]
    decide
  · rw [htext, hheld]
    exact ⟨_, rfl⟩

end KeyBridge
