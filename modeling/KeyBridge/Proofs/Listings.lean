-- SUMMARY: The keys of a table: each of them once, and sorted by their UTF-8 bytes.
import KeyBridge.Table

/-!
# Listings

The sorted keys of a table increase in their UTF-8 bytes (`Table.sortedKeys_increase`). For they are
sorted by their characters, and of two characters the greater one has the greater byte at the first
place where their bytes differ (`utf8EncodeChar_lt`).
-/

namespace KeyBridge

/-! ## Bytes of texts -/

/-- The UTF-8 bytes of a text. -/
def utf8 (s : String) : List UInt8 := s.toUTF8.data.toList

theorem utf8_eq (s : String) : utf8 s = s.toList.flatMap String.utf8EncodeChar := by
  rw [utf8, String.toUTF8, ← String.utf8Encode_toList, List.utf8Encode,
    List.toList_data_toByteArray]

theorem ofNat_cons_lt_iff {x y : Nat} (hx : x < 256) (hy : y < 256) (bytes bytes' : List UInt8) :
    UInt8.ofNat x :: bytes < UInt8.ofNat y :: bytes' ↔ x < y ∨ x = y ∧ bytes < bytes' := by
  rw [List.cons_lt_cons_iff, UInt8.lt_iff_toNat_lt, ← UInt8.toNat_inj, UInt8.toNat_ofNat',
    UInt8.toNat_ofNat', Nat.mod_eq_of_lt hx, Nat.mod_eq_of_lt hy]

/-- Numbers are in the order of their digits to base 64. -/
theorem digits_lt {v w : Nat} (h : v < w) : v / 262144 < w / 262144
    ∨ v / 262144 = w / 262144 ∧ (v / 4096 % 64 < w / 4096 % 64
      ∨ v / 4096 % 64 = w / 4096 % 64 ∧ (v / 64 % 64 < w / 64 % 64
        ∨ v / 64 % 64 = w / 64 % 64 ∧ v % 64 < w % 64)) := by
  have hlast : v / 64 < w / 64 ∨ v / 64 = w / 64 ∧ v % 64 < w % 64 := by omega
  have hthird : v / 4096 < w / 4096 ∨ v / 4096 = w / 4096 ∧ v / 64 ≤ w / 64 := by omega
  have hsecond : v / 262144 < w / 262144 ∨ v / 262144 = w / 262144 ∧ v / 4096 ≤ w / 4096 := by
    omega
  omega

/-- The bytes of characters are in the order of the characters, whatever follows them. -/
theorem utf8EncodeChar_lt {c d : Char} (h : c < d) (rest rest' : List UInt8) :
    String.utf8EncodeChar c ++ rest < String.utf8EncodeChar d ++ rest' := by
  have hlt : c.val.toNat < d.val.toNat := h
  have hdigits := digits_lt hlt
  have hvalid := d.valid
  simp only [UInt32.isValidChar, Nat.isValidChar] at hvalid
  simp only [String.utf8EncodeChar]
  generalize c.val.toNat = v at *
  generalize d.val.toNat = w at *
  -- by the numbers of their bytes; a character does not have more bytes than a greater one
  repeat' split
  all_goals
    first
    | omega
    | simp (disch := omega) only [List.cons_append, List.nil_append, ofNat_cons_lt_iff,
        Nat.mod_eq_of_lt]
      omega

theorem utf8EncodeChar_ne_nil (c : Char) : String.utf8EncodeChar c ≠ [] := by
  intro hnil
  have hlength := String.length_utf8EncodeChar c
  rw [hnil] at hlength
  exact Nat.ne_of_lt c.utf8Size_pos hlength

theorem flatMap_utf8EncodeChar_lt {cs ds : List Char} (h : cs < ds) :
    cs.flatMap String.utf8EncodeChar < ds.flatMap String.utf8EncodeChar := by
  induction cs generalizing ds with
  | nil =>
    cases ds with
    | nil => exact absurd h (List.lt_irrefl _)
    | cons d ds =>
      obtain ⟨byte, more, hd⟩ := List.exists_cons_of_ne_nil (utf8EncodeChar_ne_nil d)
      rw [List.flatMap_nil, List.flatMap_cons, hd, List.cons_append]
      exact List.nil_lt_cons _ _
  | cons c cs ih =>
    cases ds with
    | nil => exact absurd h (List.not_lt_nil _)
    | cons d ds =>
      rw [List.flatMap_cons, List.flatMap_cons]
      rcases List.cons_lt_cons_iff.1 h with hlt | ⟨rfl, hlt⟩
      · exact utf8EncodeChar_lt hlt _ _
      · exact List.append_left_lt (ih hlt)

/-- Texts are in the order of their UTF-8 bytes. -/
theorem utf8_lt {s t : String} (h : s < t) : utf8 s < utf8 t := by
  rw [utf8_eq, utf8_eq]
  exact flatMap_utf8EncodeChar_lt h

/-! ## Keys -/

namespace Table

variable {α : Type} (t : Table α) (key : String)

theorem mem_map_fst_iff (entries : List (String × α)) :
    key ∈ entries.map Prod.fst ↔ (entries.lookup key).isSome := by
  induction entries with
  | nil => simp
  | cons e entries ih =>
    rw [List.map_cons, List.mem_cons, ih, List.lookup_cons]
    by_cases hkey : key = e.1
    · simp [hkey]
    · have hne : (key == e.1) = false := by simpa using hkey
      simp [hkey, hne]

theorem mem_keys_iff : key ∈ t.keys ↔ t.contains key := mem_map_fst_iff key t.entries

theorem map_fst_insertEntry (value : α) (entries : List (String × α)) :
    (insertEntry key value entries).map Prod.fst
      = if key ∈ entries.map Prod.fst then entries.map Prod.fst
        else entries.map Prod.fst ++ [key] := by
  induction entries with
  | nil => rfl
  | cons e entries ih =>
    rw [insertEntry]
    by_cases hkey : e.1 = key
    · simp [hkey]
    · simp only [hkey, if_false, List.map_cons, ih, List.mem_cons, Ne.symm hkey, false_or]
      split <;> rfl

theorem keys_insert (value : α) :
    (t.insert key value).keys = if key ∈ t.keys then t.keys else t.keys ++ [key] :=
  map_fst_insertEntry key value t.entries

theorem nodup_keys_insert {t : Table α} (h : t.keys.Nodup) (value : α) :
    (t.insert key value).keys.Nodup := by
  rw [keys_insert]
  split
  · exact h
  · rename_i hnew
    rw [List.nodup_append]
    refine ⟨h, by simp, fun a ha b hb heq => hnew ?_⟩
    rwa [← List.mem_singleton.1 hb, ← heq]

theorem length_sortedKeys : t.sortedKeys.length = t.size := by
  rw [sortedKeys, List.length_mergeSort, keys, List.length_map, size]

theorem mem_sortedKeys_iff : key ∈ t.sortedKeys ↔ t.contains key := by
  rw [sortedKeys, List.mem_mergeSort, mem_keys_iff]

/-- Sorted keys increase in their bytes. -/
theorem sortedKeys_increase {t : Table α} (h : t.keys.Nodup) :
    t.sortedKeys.Pairwise fun a b => utf8 a < utf8 b := by
  have hsorted : t.sortedKeys.Pairwise fun a b => decide (a ≤ b) = true := by
    refine List.pairwise_mergeSort (fun a b c hab hbc => ?_) (fun a b => ?_) t.keys
    · exact decide_eq_true (String.le_trans (of_decide_eq_true hab) (of_decide_eq_true hbc))
    · simpa using String.le_total a b
  have hnodup : t.sortedKeys.Nodup := (List.mergeSort_perm t.keys _).nodup_iff.2 h
  refine hsorted.imp₂ (fun a b hle hne => utf8_lt ?_) hnodup
  exact Std.lt_of_le_of_ne (of_decide_eq_true hle) hne

end Table

end KeyBridge
