-- SUMMARY: Sets of code points given as sorted ranges.
/-!
# Ranges of code points

A property of characters is kept as the sorted list of the ranges of code points that have it.
-/

namespace KeyBridge.Text

/-- Whether a code point lies in one of the given ranges, both ends included. -/
def inRanges (n : Nat) : List (Nat × Nat) → Bool
  | [] => false
  | (lo, hi) :: rest => (lo ≤ n && n ≤ hi) || inRanges n rest

theorem inRanges_eq_true_iff (n : Nat) (rs : List (Nat × Nat)) :
    inRanges n rs = true ↔ ∃ r ∈ rs, r.1 ≤ n ∧ n ≤ r.2 := by
  induction rs with
  | nil => simp [inRanges]
  | cons r rs ih =>
    obtain ⟨lo, hi⟩ := r
    simp [inRanges, ih]

end KeyBridge.Text
