-- SUMMARY: Which keys are down when the text of a sequence of key actions and releases was typed.
import KeyBridge.Proofs.StuckKeys

/-!
# Keys that are given up

A release has no text. All it does is to take keys out of the book, so that they are not let go at
the end of the sequence. If every mouse action names a mouse button, then the keys that stay down
are exactly those that were given up while they were down: `down_iff_givenUp`.
-/

namespace KeyBridge

/-! ## Edges -/

namespace Action

/-- A key action that hits its key, or a release. -/
def Plays : Action → Prop
  | .key a => ∀ k, ¬ a.Misses k
  | .release _ => True
  | .raw _ => False
  | .hotkey _ _ => False

/-- What the text of an action does to keys. -/
def strokes (width : Nat) (a : Action) : List Stroke := typed (a.text width).toList

/-- What the text of an action does to one key. -/
def edges (width : Nat) (k : Key) (a : Action) : List Direction :=
  ((a.strokes width).filter fun s => s.1 = k).map Prod.snd

end Action

/-- The last edge that the texts of actions have for a key puts it down. -/
def EndsDown (width : Nat) (k : Key) (actions : List Action) : Prop :=
  Latest (fun _ a => (a.edges width k).getLast? = some .down) (fun a => a.edges width k = []) actions

/-- The last edge that the texts of actions have for a key puts it down, and a later release covers
the key. -/
def GivenUp (width : Nat) (k : Key) (actions : List Action) : Prop :=
  ∃ before a after, actions = before ++ a :: after ∧ (a.edges width k).getLast? = some .down
    ∧ (∀ x ∈ after, x.edges width k = []) ∧ ∃ r, .release r ∈ after ∧ r.covers k = true

/-- What strokes make of a key depends on the last of them that is for the key. -/
theorem Keyboard.foldl_strike (strokes : List Stroke) (b : Keyboard) (k : Key) :
    strokes.foldl strike b k
      = (((strokes.filter fun s => s.1 = k).map Prod.snd).getLast?.map (· = .down)).getD (b k) := by
  induction strokes generalizing b with
  | nil => rfl
  | cons s strokes ih =>
    rw [List.foldl_cons, ih, strike, List.filter_cons]
    by_cases hk : k = s.1
    · subst hk
      simp only [decide_true, if_true, List.map_cons, List.getLast?_cons]
      cases ((strokes.filter fun t => t.1 = s.1).map Prod.snd).getLast? <;> simp
    · simp [hk, Ne.symm hk]

variable {width : Nat} {k : Key}

/-- What comes later and is neither harmful nor what is looked for does not matter. -/
theorem latest_append {α : Type} {p : List α → α → Prop} {harmless : α → Prop} {xs ys : List α}
    (h : ∀ y ∈ ys, harmless y ∧ ∀ before, ¬ p before y) :
    Latest p harmless (xs ++ ys) ↔ Latest p harmless xs := by
  induction ys generalizing xs with
  | nil => rw [List.append_nil]
  | cons y ys ih =>
    obtain ⟨hharmless, hnot⟩ := h y List.mem_cons_self
    rw [List.append_cons, ih fun z hz => h z (List.mem_cons_of_mem _ hz), latest_concat]
    simp [hharmless, hnot xs]

/-! ## Edges of key actions -/

namespace KeyAction

variable {a : KeyAction}

theorem edges_eq (width : Nat) (k : Key) (a : KeyAction) :
    (Action.key a).edges width k = (a.strokes.filter fun s => s.1 = k).map Prod.snd := by
  rw [Action.edges, Action.strokes, Action.text, a.typed_text.2]

theorem edges_eq_nil_iff : (Action.key a).edges width k = [] ↔ ¬ a.Shows k := by
  rw [edges_eq, List.map_eq_nil_iff, List.filter_eq_nil_iff]
  constructor
  · rintro hnone ⟨d, hd⟩
    exact hnone (k, d) hd (by simp)
  · intro hshows s hs hk
    simp only [decide_eq_true_eq] at hk
    exact hshows ⟨s.2, hk ▸ hs⟩

/-- The last edge of an action goes down only if the action has no other stroke. -/
theorem getLast?_edges_iff :
    ((Action.key a).edges width k).getLast? = some .down ↔ a.PutsDown k := by
  rw [edges_eq]
  constructor
  · intro hlast
    have hshows : a.Shows k := by
      have hmem := List.mem_of_getLast? hlast
      obtain ⟨s, hs, hdown⟩ := List.mem_map.1 hmem
      obtain ⟨hs, hk⟩ := List.mem_filter.1 hs
      simp only [decide_eq_true_eq] at hk
      exact ⟨s.2, hk ▸ hs⟩
    apply (strike_of_shows hshows Keyboard.released).1
    rw [Keyboard.foldl_strike, hlast]
    rfl
  · intro hdown
    rw [hdown]
    simp

/-- A timed action leaves no key down. -/
theorem getLast?_edges_of_isTimed (htimed : a.isTimed = true) :
    ((Action.key a).edges width k).getLast? ≠ some .down := by
  intro hlast
  have hverdict := (getLast?_edges_iff.1 hlast).verdict?_eq
  simp [verdict?, htimed] at hverdict

end KeyAction

theorem Action.edges_release (width : Nat) (k : Key) (r : Release) :
    (Action.release r).edges width k = [] := rfl

/-! ## The text of a sequence -/

theorem Action.Plays.lined {a : Action} (h : a.Plays) :
    KeyAction.Lined (a.text width).toList := by
  cases a with
  | raw code => exact h.elim
  | key a => exact a.typed_text.1
  | release r => exact KeyAction.lined_of_isLine Text.isLine_nil
  | hotkey b body => exact h.elim

theorem typed_actionsText_of_lined (width indentation : Nat) {actions : List Action}
    (h : ∀ a ∈ actions, KeyAction.Lined (a.text width).toList) (rest : List Char) :
    typed ((actionsText width indentation actions).toList ++ rest)
      = actions.flatMap (Action.strokes width) ++ typed rest := by
  induction actions with
  | nil => simp [actionsText]
  | cons a actions ih =>
    have hcons : (actionsText width indentation (a :: actions)).toList
        = Text.indentBy indentation (a.text width).toList
          ++ (actionsText width indentation actions).toList := by
      simp [actionsText]
    have hrest := ih fun x hx => h x (List.mem_cons_of_mem _ hx)
    rw [hcons, List.append_assoc, typed_indentBy indentation (h a List.mem_cons_self), hrest,
      List.flatMap_cons, List.append_assoc]
    rfl

/-- What the text of a sequence does to keys: what the actions do, and then the keys that are held
by the book go up. -/
theorem typed_sequenceText_of_plays (width level : Nat) {actions : List Action}
    (h : ∀ a ∈ actions, a.Plays) :
    typed (sequenceText width level actions).toList
      = actions.flatMap (Action.strokes width)
        ++ ((heldAfter actions).keys.filter fun k => k.label.isSome).map fun k => (k, .up) := by
  rw [sequenceText, indentedText, String.toList_append,
    typed_actionsText_of_lined width _ (fun a ha => (h a ha).lined), typed_lettingGo]

/-! ## The keyboard and the book -/

/-- The keyboard after the texts of actions. -/
def Keyboard.afterActions (width : Nat) (actions : List Action) : Keyboard :=
  (actions.flatMap (Action.strokes width)).foldl strike released

theorem Keyboard.afterActions_concat (width : Nat) (actions : List Action) (a : Action) (k : Key) :
    afterActions width (actions ++ [a]) k
      = ((a.edges width k).getLast?.map (· = .down)).getD (afterActions width actions k) := by
  rw [afterActions, List.flatMap_append, List.flatMap_singleton, List.foldl_append,
    foldl_strike (a.strokes width)]
  rfl

theorem afterActions_iff (width : Nat) (actions : List Action) (k : Key) :
    Keyboard.afterActions width actions k = true ↔ EndsDown width k actions := by
  obtain ⟨backwards, rfl⟩ : ∃ backwards, actions = backwards.reverse :=
    ⟨actions.reverse, by simp⟩
  induction backwards with
  | nil => exact ⟨fun h => (by cases h), fun h => absurd h latest_nil⟩
  | cons a backwards ih =>
    rw [List.reverse_cons, EndsDown, latest_concat, Keyboard.afterActions_concat]
    rcases hlast : (a.edges width k).getLast? with _ | d
    · simpa [List.getLast?_eq_none_iff.1 hlast, EndsDown] using ih
    · have hne : a.edges width k ≠ [] := by
        intro hnil
        rw [hnil] at hlast
        cases hlast
      simp [hne]

/-- Only a key with a label goes down. -/
theorem EndsDown.label {actions : List Action} (h : EndsDown width k actions)
    (hplays : ∀ a ∈ actions, a.Plays) : k.label.isSome = true := by
  obtain ⟨before, a, after, rfl, hlast, -⟩ := h
  cases a with
  | raw code => exact (hplays (.raw code) (by simp)).elim
  | key a => exact (KeyAction.getLast?_edges_iff.1 hlast).label
  | release r =>
    rw [Action.edges_release] at hlast
    cases hlast
  | hotkey b body => exact (hplays (.hotkey b body) (by simp)).elim

theorem KeySet.mem_eraseAll (held : KeySet) (ks : List Key) (k : Key) :
    k ∈ (held.eraseAll ks).keys ↔ k ∈ held.keys ∧ k ∉ ks := by
  induction ks generalizing held with
  | nil => simp [eraseAll]
  | cons x ks ih =>
    have hrest := ih (held.erase x)
    rw [mem_erase] at hrest
    simpa [eraseAll, and_assoc] using hrest

theorem KeySet.mem_afterRelease (held : KeySet) (r : Release) (k : Key) :
    k ∈ (held.afterRelease r).keys ↔ k ∈ held.keys ∧ r.covers k = false := by
  rw [afterRelease, Release.covers]
  cases r.all with
  | true => simp
  | false => simp [mem_eraseAll, contains]

theorem heldAfter_append_singleton (actions : List Action) (a : Action) :
    heldAfter (actions ++ [a]) = (heldAfter actions).afterAction a := by
  simp [heldAfter]

/-- A key action that has no text for a key leaves the key in the book as it is, unless the key has
no label. -/
theorem mem_afterKey_of_not_shows {a : KeyAction} (hplays : (Action.key a).Plays)
    (hshows : ¬ a.Shows k) (hlabel : k.label.isSome = true) (held : KeySet) :
    k ∈ (held.afterKey a).keys ↔ k ∈ held.keys := by
  apply KeyAction.mem_afterKey_ne
  intro hkey
  exact hplays k (KeyAction.misses_of_not_shows hkey hshows hlabel)

/-- A key is given up by the last action, or was before and the last action has no edge for it. -/
theorem givenUp_concat {actions : List Action} {a : Action} :
    GivenUp width k (actions ++ [a]) ↔ a.edges width k = []
      ∧ (GivenUp width k actions
        ∨ (EndsDown width k actions ∧ ∃ r, a = .release r ∧ r.covers k = true)) := by
  constructor
  · rintro ⟨before, x, after, h, hlast, hnone, r, hr, hcovers⟩
    rcases List.eq_nil_or_concat after with rfl | ⟨after, z, rfl⟩
    · cases hr
    · rw [List.concat_eq_append] at h hnone hr
      rw [← List.cons_append, ← List.append_assoc] at h
      obtain ⟨rfl, hz⟩ := List.append_inj' h rfl
      cases hz
      refine ⟨hnone a (by simp), ?_⟩
      have hearlier : ∀ y ∈ after, y.edges width k = [] := fun y hy => hnone y (by simp [hy])
      rcases List.mem_append.1 hr with hr | hr
      · exact .inl ⟨before, x, after, rfl, hlast, hearlier, r, hr, hcovers⟩
      · exact .inr ⟨⟨before, x, after, rfl, hlast, hearlier⟩, r, (List.mem_singleton.1 hr).symm,
          hcovers⟩
  · have hnone {after : List Action} (ha : a.edges width k = [])
        (hafter : ∀ x ∈ after, x.edges width k = []) : ∀ x ∈ after ++ [a], x.edges width k = [] := by
      intro x hx
      rcases List.mem_append.1 hx with hx | hx
      · exact hafter x hx
      · rwa [List.mem_singleton.1 hx]
    rintro ⟨ha, ⟨before, x, after, rfl, hlast, hafter, r, hr, hcovers⟩
      | ⟨⟨before, x, after, rfl, hlast, hafter⟩, r, rfl, hcovers⟩⟩
    · exact ⟨before, x, after ++ [a], by simp, hlast, hnone ha hafter, r, by simp [hr], hcovers⟩
    · exact ⟨before, x, after ++ [.release r], by simp, hlast, hnone ha hafter, r, by simp, hcovers⟩

/-- The key is down and not in the book exactly if it was given up. -/
theorem givenUp_iff (width : Nat) (k : Key) (actions : List Action)
    (hplays : ∀ a ∈ actions, a.Plays) :
    (EndsDown width k actions ∧ k ∉ (heldAfter actions).keys) ↔ GivenUp width k actions := by
  obtain ⟨backwards, rfl⟩ : ∃ backwards, actions = backwards.reverse :=
    ⟨actions.reverse, by simp⟩
  induction backwards with
  | nil =>
    refine ⟨fun h => absurd h.1 latest_nil, ?_⟩
    rintro ⟨before, a, after, h, -⟩
    cases before <;> cases h
  | cons a backwards ih =>
    rw [List.reverse_cons] at hplays ⊢
    have hearlier : ∀ x ∈ backwards.reverse, x.Plays := fun x hx =>
      hplays x (List.mem_append_left _ hx)
    have ha : a.Plays := hplays a (by simp)
    have hprevious := ih hearlier
    rw [heldAfter_append_singleton, givenUp_concat, ← hprevious, EndsDown, latest_concat, ← EndsDown]
    cases a with
    | raw code => exact ha.elim
    | hotkey b body => exact ha.elim
    | release r =>
      -- The text stands still; the book loses the keys of the release.
      rw [KeySet.afterAction, KeySet.mem_afterRelease]
      cases hcovers : r.covers k with
      | false => simp [Action.edges_release, hcovers]
      | true =>
        have honce : EndsDown width k backwards.reverse
            → k ∉ (heldAfter backwards.reverse).keys → EndsDown width k backwards.reverse :=
          fun hdown _ => hdown
        simpa [Action.edges_release, hcovers] using honce
    | key a =>
      rw [KeySet.afterAction, KeyAction.getLast?_edges_iff, KeyAction.edges_eq_nil_iff]
      by_cases hshows : a.Shows k
      · -- The text and the book agree on the key.
        have hheld : a.PutsDown k → ¬ k ∉ ((heldAfter backwards.reverse).afterKey a).keys := by
          intro hdown hnot
          rw [KeyAction.mem_afterKey_self _ hdown.key?, hdown.verdict?_eq] at hnot
          exact hnot rfl
        simp only [hshows, not_true, false_and, or_false, reduceCtorEq, exists_false, and_false,
          iff_false, not_and]
        exact hheld
      · have hnot : ¬ a.PutsDown k := fun hdown => hshows hdown.shows
        have hsame (hdown : EndsDown width k backwards.reverse) :=
          mem_afterKey_of_not_shows ha hshows (hdown.label hearlier) (heldAfter backwards.reverse)
        simp only [hnot, hshows, not_false_eq_true, true_and, false_or, reduceCtorEq, false_and,
          exists_false, and_false, or_false]
        apply and_congr_right
        intro hdown
        rw [hsame hdown]

/-- After the text of a sequence, a key is down exactly if it was given up while it was down. -/
theorem type_sequenceText_of_plays (width level : Nat) {actions : List Action}
    (hplays : ∀ a ∈ actions, a.Plays) (k : Key) :
    Keyboard.released.type (sequenceText width level actions) k = true
      ↔ GivenUp width k actions := by
  rw [Keyboard.type, typed_sequenceText_of_plays width level hplays, List.foldl_append,
    Keyboard.foldl_strike_map _ (by decide), ← givenUp_iff width k actions hplays,
    ← afterActions_iff, Keyboard.afterActions]
  simp only [Bool.and_eq_true, Bool.not_eq_true', List.contains_eq_mem, decide_eq_false_iff_not,
    List.mem_filter, not_and]
  apply and_congr_right
  intro hdown
  have hlabel := ((afterActions_iff width actions k).1 hdown).label hplays
  simp [hlabel]

/-! ## Keys that are not given up -/

theorem endsDown_append {actions after : List Action} (h : ∀ a ∈ after, a.edges width k = []) :
    EndsDown width k (actions ++ after) ↔ EndsDown width k actions := by
  apply latest_append
  intro a ha
  exact ⟨h a ha, fun _ => by simp [h a ha]⟩

theorem GivenUp.endsDown {actions : List Action} (h : GivenUp width k actions) :
    EndsDown width k actions := by
  obtain ⟨before, a, after, hactions, hlast, hnone, -⟩ := h
  exact ⟨before, a, after, hactions, hlast, hnone⟩

theorem GivenUp.exists_release {actions : List Action} (h : GivenUp width k actions) :
    ∃ r, .release r ∈ actions ∧ r.covers k = true := by
  obtain ⟨before, a, after, rfl, -, -, r, hr, hcovers⟩ := h
  exact ⟨r, by simp [hr], hcovers⟩

/-- A key whose last edge is that of a timed action for it is not down. -/
theorem not_endsDown_of_isTimed {before after : List Action} {a : KeyAction}
    (hplays : ∀ x ∈ before ++ .key a :: after, x.Plays) (htimed : a.isTimed = true)
    (hkey : a.key? = some k) (hafter : ∀ x ∈ after, x.edges width k = []) :
    ¬ EndsDown width k (before ++ .key a :: after) := by
  rw [List.append_cons, endsDown_append hafter, EndsDown, latest_concat]
  rintro (hlast | ⟨hnone, hdown⟩)
  · exact KeyAction.getLast?_edges_of_isTimed htimed hlast
  · have hlabel := EndsDown.label hdown fun x hx => hplays x (List.mem_append_left _ hx)
    have hmisses := KeyAction.misses_of_not_shows hkey (KeyAction.edges_eq_nil_iff.1 hnone) hlabel
    exact hplays (.key a) (by simp) k hmisses

/-- The book does not see batches. -/
theorem heldAfter_batch {before after : List Action} {a : KeyAction} (hbatch : a.isBatch = true) :
    heldAfter (before ++ .key a :: after) = heldAfter (before ++ after) := by
  have hkey : a.key? = none := by simpa [KeyAction.isBatch] using hbatch
  have hsame (held : KeySet) : held.afterAction (.key a) = held := by
    simp [KeySet.afterAction, KeySet.afterKey, hkey]
  simp [heldAfter, hsame]

/-- After the text of a generator, exactly those keys are down that were given up while they were
down. So keys that no release covers are up, a timed action leaves its key up unless a later action
has an edge for it, and a batch changes nothing about the keys that are let go at the end. -/
theorem down_iff_givenUp (g : Generator) (actions : List Action) (level : Nat) (host : Host)
    (hplays : ∀ a ∈ actions, a.Plays) :
    (∀ k, Keyboard.released.type (g.generate actions level host).1 k = true
      ↔ GivenUp g.config.indentWidth k actions)
    ∧ (∀ k, (∀ r, .release r ∈ actions → r.covers k = false) →
      Keyboard.released.type (g.generate actions level host).1 k = false)
    ∧ (∀ before a after k, actions = before ++ .key a :: after → a.isTimed = true →
      a.key? = some k → (∀ x ∈ after, x.edges g.config.indentWidth k = []) →
      Keyboard.released.type (g.generate actions level host).1 k = false)
    ∧ ∀ before a after, actions = before ++ .key a :: after → a.isBatch = true →
      let spaces := indentation g.config.indentWidth level
      ∃ trailing,
        (g.generate actions level host).1
            = actionsText g.config.indentWidth spaces actions ++ trailing
        ∧ (g.generate (before ++ after) level host).1
            = actionsText g.config.indentWidth spaces (before ++ after) ++ trailing := by
  have hdown (k : Key) : Keyboard.released.type (g.generate actions level host).1 k = true
      ↔ GivenUp g.config.indentWidth k actions :=
    type_sequenceText_of_plays _ _ hplays k
  refine ⟨hdown, ?_, ?_, ?_⟩
  · intro k hcovers
    rw [Bool.eq_false_iff, Ne, hdown]
    intro hgiven
    obtain ⟨r, hr, hcovered⟩ := hgiven.exists_release
    rw [hcovers r hr] at hcovered
    cases hcovered
  · rintro before a after k rfl htimed hkey hafter
    rw [Bool.eq_false_iff, Ne, hdown]
    intro hgiven
    exact not_endsDown_of_isTimed hplays htimed hkey hafter hgiven.endsDown
  · rintro before a after rfl hbatch spaces
    refine ⟨lettingGo spaces (heldAfter (before ++ after)).keys, ?_, rfl⟩
    rw [← heldAfter_batch hbatch]
    rfl

/-- Two keys go down and one of them is given up; a timed click, a batch and a press follow. -/
def recital : List Action :=
  [.key (.down .letterA), .key (.down .letterB), .release (.ofKeys [.letterA]),
    .key (.mouseDownFor .leftButton (.ofMillis 5)), .key (.send [.letterB, .letterC]),
    .key (.pressKey .letterD), .release .everything, .key (.down .letterE)]

theorem recital_leaves_down :
    (∀ a ∈ recital, a.Plays)
    ∧ Keyboard.released.type (Generator.generate ⟨.default, ⟨0⟩⟩ recital 1 (.fresh 8)).1 .letterA
      = true
    ∧ Keyboard.released.type (Generator.generate ⟨.default, ⟨0⟩⟩ recital 1 (.fresh 8)).1 .letterE
      = false
    ∧ Keyboard.released.type (Generator.generate ⟨.default, ⟨0⟩⟩ recital 1 (.fresh 8)).1 .leftButton
      = false := by
  have hplays : ∀ a ∈ recital, a.Plays := by
    simp only [recital, List.forall_mem_cons, List.not_mem_nil, false_implies, implies_true,
      and_true]
    refine ⟨?_, ?_, trivial, ?_, ?_, ?_, trivial, ?_⟩ <;> rintro k ⟨⟨at?, htarget⟩, hmouse⟩ <;>
      cases htarget
    cases hmouse
  obtain ⟨hdown, -, htimed, -⟩ := down_iff_givenUp ⟨.default, ⟨0⟩⟩ recital 1 (.fresh 8) hplays
  refine ⟨hplays, ?_, ?_, ?_⟩
  · apply (hdown .letterA).2
    refine ⟨[], _, _, rfl, KeyAction.getLast?_edges_iff.2 rfl, ?_, .ofKeys [.letterA], ?_, rfl⟩
    · decide +kernel
    · exact List.mem_cons_of_mem _ List.mem_cons_self
  · rw [Bool.eq_false_iff, Ne, hdown, ← givenUp_iff _ _ _ hplays]
    rintro ⟨-, hheld⟩
    exact hheld (by decide)
  · exact htimed [.key (.down .letterA), .key (.down .letterB), .release (.ofKeys [.letterA])]
      _ _ .leftButton rfl rfl rfl (by decide +kernel)

end KeyBridge
