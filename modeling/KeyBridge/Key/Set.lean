-- SUMMARY: Sets of keys that remember the order of insertion.
import KeyBridge.Key.Basic

/-!
# Key sets

A key set holds distinct keys in the order in which they came in. A key that comes in again keeps
its place; a key that was taken out and comes in again goes to the end.
-/

namespace KeyBridge

/-- Distinct keys in the order in which they came in. -/
structure KeySet where
  keys : List Key
  nodup : keys.Nodup
deriving DecidableEq

namespace KeySet

protected def empty : KeySet := ⟨[], List.nodup_nil⟩

def contains (s : KeySet) (k : Key) : Bool := s.keys.contains k

def isEmpty (s : KeySet) : Bool := s.keys.isEmpty

/-- The set with one key more, at the end if it is new. -/
def insert (s : KeySet) (k : Key) : KeySet :=
  if h : k ∈ s.keys then s
  else
    ⟨s.keys ++ [k], by
      rw [List.nodup_append]
      exact ⟨s.nodup, by simp, by
        intro a ha b hb
        rw [List.mem_singleton] at hb
        subst hb
        exact fun hab => h (hab ▸ ha)⟩⟩

def erase (s : KeySet) (k : Key) : KeySet :=
  ⟨s.keys.filter (· ≠ k), List.Pairwise.filter _ s.nodup⟩

def eraseAll (s : KeySet) (ks : List Key) : KeySet := ks.foldl erase s

/-- The distinct keys of a list, each at its first place. -/
def ofList (ks : List Key) : KeySet := ks.foldl insert KeySet.empty

/-! ## Members -/

@[simp] theorem keys_empty : KeySet.empty.keys = [] := rfl

theorem keys_insert (s : KeySet) (k : Key) :
    (s.insert k).keys = if k ∈ s.keys then s.keys else s.keys ++ [k] := by
  unfold insert
  split <;> rfl

@[simp] theorem mem_insert (s : KeySet) (k a : Key) :
    a ∈ (s.insert k).keys ↔ a ∈ s.keys ∨ a = k := by
  rw [keys_insert]
  split
  · constructor
    · exact Or.inl
    · rintro (h | rfl)
      · exact h
      · assumption
  · simp

@[simp] theorem keys_erase (s : KeySet) (k : Key) :
    (s.erase k).keys = s.keys.filter (· ≠ k) := rfl

@[simp] theorem mem_erase (s : KeySet) (k a : Key) :
    a ∈ (s.erase k).keys ↔ a ∈ s.keys ∧ a ≠ k := by
  simp

end KeySet

end KeyBridge
