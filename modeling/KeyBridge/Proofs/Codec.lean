-- SUMMARY: Reading back what was written on the wire.
import KeyBridge.Wire.Codec

/-!
# Reading back

A message is read back as its text up to the first zero character. The characters of a message are
read back one at a time, whatever follows them, so the proofs go by the list of characters.
-/

namespace KeyBridge.Wire

/-! ## Bytes -/

theorem unitsOfBytes_bytesOfUnit (u : UInt16) (rest : List UInt8) :
    unitsOfBytes (bytesOfUnit u ++ rest) = u :: unitsOfBytes rest := by
  have hlt := u.toNat_lt
  have hunit : UInt16.ofNat
      ((UInt8.ofNat (u.toNat % 256)).toNat + 256 * (UInt8.ofNat (u.toNat / 256)).toNat) = u := by
    apply UInt16.toNat_inj.1
    simp only [UInt16.toNat_ofNat', UInt8.toNat_ofNat']
    omega
  simp only [bytesOfUnit, List.cons_append, List.nil_append, unitsOfBytes, hunit]

theorem unitsOfBytes_flatMap (us : List UInt16) : unitsOfBytes (us.flatMap bytesOfUnit) = us := by
  induction us with
  | nil => rfl
  | cons u us ih => rw [List.flatMap_cons, unitsOfBytes_bytesOfUnit, ih]

/-! ## Characters -/

theorem charsOfUnits_cons {u : UInt16} (rest : List UInt16) (hhigh : isHigh u = false)
    (hlow : isLow u = false) :
    charsOfUnits (u :: rest) = Char.ofNat u.toNat :: charsOfUnits rest := by
  cases rest with
  | nil => simp [charsOfUnits, hhigh, hlow]
  | cons v rest => simp [charsOfUnits, hhigh, hlow]

theorem charsOfUnits_pair {u v : UInt16} (rest : List UInt16) (hhigh : isHigh u = true)
    (hlow : isLow v = true) :
    charsOfUnits (u :: v :: rest) = charOfPair u v :: charsOfUnits rest := by
  simp [charsOfUnits, hhigh, hlow]

/-- A character is no surrogate. -/
theorem toNat_lt_or (c : Char) : c.toNat < 0xD800 ∨ (0xDFFF < c.toNat ∧ c.toNat < 0x110000) := by
  have h := c.valid
  simp only [UInt32.isValidChar, Nat.isValidChar] at h
  exact h

theorem toNat_ofNat {n : Nat} (h : n.isValidChar) : (Char.ofNat n).toNat = n := by
  rw [Char.ofNat, dif_pos h]
  rfl

/-- A character beyond the basic plane is a pair of surrogates. -/
theorem unitsOfChar_pair {c : Char} (h : 0x10000 ≤ c.toNat) : ∃ high low,
    unitsOfChar c = [high, low] ∧ isHigh high = true ∧ isLow low = true ∧ charOfPair high low = c := by
  have hvalid := toNat_lt_or c
  have hhigh : (UInt16.ofNat (0xD800 + (c.toNat - 0x10000) / 0x400)).toNat
      = 0xD800 + (c.toNat - 0x10000) / 0x400 := by
    rw [UInt16.toNat_ofNat']
    omega
  have hlow : (UInt16.ofNat (0xDC00 + (c.toNat - 0x10000) % 0x400)).toNat
      = 0xDC00 + (c.toNat - 0x10000) % 0x400 := by
    rw [UInt16.toNat_ofNat']
    omega
  have hpair : 0x10000 + (c.toNat - 0x10000) / 0x400 * 0x400 + (c.toNat - 0x10000) % 0x400
      = c.toNat := by
    omega
  refine ⟨_, _, if_neg (Nat.not_lt.2 h), ?_, ?_, ?_⟩
  · simp only [isHigh, hhigh, Bool.and_eq_true, decide_eq_true_eq]
    omega
  · simp only [isLow, hlow, Bool.and_eq_true, decide_eq_true_eq]
    omega
  · rw [charOfPair, hhigh, hlow, Nat.add_sub_cancel_left, Nat.add_sub_cancel_left, hpair,
      Char.ofNat_toNat]

theorem charsOfUnits_unitsOfChar (c : Char) (rest : List UInt16) :
    charsOfUnits (unitsOfChar c ++ rest) = c :: charsOfUnits rest := by
  by_cases hbasic : c.toNat < 0x10000
  · have hvalid := toNat_lt_or c
    have hn : (UInt16.ofNat c.toNat).toNat = c.toNat := by
      rw [UInt16.toNat_ofNat']
      omega
    rw [unitsOfChar, if_pos hbasic, List.singleton_append, charsOfUnits_cons, hn, Char.ofNat_toNat]
    · simp only [isHigh, hn, Bool.and_eq_false_iff, decide_eq_false_iff_not]
      omega
    · simp only [isLow, hn, Bool.and_eq_false_iff, decide_eq_false_iff_not]
      omega
  · obtain ⟨high, low, hunits, hhigh, hlow, hpair⟩ := unitsOfChar_pair (Nat.not_lt.1 hbasic)
    rw [hunits, List.cons_append, List.singleton_append, charsOfUnits_pair rest hhigh hlow, hpair]

theorem units_cons (c : Char) (cs : List Char) : units (c :: cs) = unitsOfChar c ++ units cs :=
  List.flatMap_cons

theorem units_append (cs ds : List Char) : units (cs ++ ds) = units cs ++ units ds :=
  List.flatMap_append

theorem charsOfUnits_units_append (cs : List Char) (rest : List UInt16) :
    charsOfUnits (units cs ++ rest) = cs ++ charsOfUnits rest := by
  induction cs with
  | nil => rfl
  | cons c cs ih => rw [units_cons, List.append_assoc, charsOfUnits_unitsOfChar, ih, List.cons_append]

theorem charsOfUnits_units (cs : List Char) : charsOfUnits (units cs) = cs := by
  have hread := charsOfUnits_units_append cs []
  rwa [List.append_nil, charsOfUnits, List.append_nil] at hread

/-- Only the zero character has a zero unit. -/
theorem zero_mem_unitsOfChar (c : Char) : 0 ∈ unitsOfChar c ↔ c = '\x00' := by
  have hvalid := toNat_lt_or c
  have hzero : c = '\x00' ↔ c.toNat = 0 := by
    rw [← Char.toNat_inj]
    rfl
  rw [hzero, unitsOfChar]
  split
  · rw [List.mem_singleton, ← UInt16.toNat_inj, UInt16.toNat_ofNat', UInt16.toNat_zero]
    omega
  · simp only [List.mem_cons, List.not_mem_nil, or_false, ← UInt16.toNat_inj, UInt16.toNat_ofNat',
      UInt16.toNat_zero]
    omega

theorem ne_zero_of_mem_units {cs : List Char} (h : '\x00' ∉ cs) {u : UInt16} (hu : u ∈ units cs) :
    u ≠ 0 := by
  rintro rfl
  obtain ⟨c, hc, hzero⟩ := List.mem_flatMap.1 hu
  exact h ((zero_mem_unitsOfChar c).1 hzero ▸ hc)

/-! ## Messages -/

/-- A text up to its first zero character. -/
def upToZero (s : String) : String := String.ofList (s.toList.takeWhile (· ≠ '\x00'))

theorem upToZero_eq_self {s : String} (h : '\x00' ∉ s.toList) : upToZero s = s := by
  have hall : ∀ c ∈ s.toList, decide (c ≠ '\x00') = true := fun c hc =>
    decide_eq_true fun hzero => h (hzero ▸ hc)
  have hwhole : (s.toList ++ []).takeWhile (· ≠ '\x00') = s.toList ++ [] :=
    List.takeWhile_append_of_pos hall
  rw [List.append_nil] at hwhole
  rw [upToZero, hwhole, String.ofList_toList]

theorem takeWhile_units (cs : List Char) (rest : List UInt16) :
    (units cs ++ 0 :: rest).takeWhile (· ≠ 0) = units (cs.takeWhile (· ≠ '\x00')) := by
  induction cs with
  | nil => simp [units]
  | cons c cs ih =>
    by_cases hc : c = '\x00'
    · subst hc
      rfl
    · have hne : ∀ u ∈ unitsOfChar c, decide (u ≠ 0) = true := by
        intro u hu
        refine decide_eq_true fun h => hc ((zero_mem_unitsOfChar c).1 (h ▸ hu))
      rw [units_cons, List.append_assoc, List.takeWhile_append_of_pos hne, ih,
        List.takeWhile_cons_of_pos (by simpa using hc), units_cons]

/-- A message is read back up to its first zero character. -/
theorem decode_encode (s : String) : decode (encode s) = upToZero s := by
  rw [decode, encode, unitsOfBytes_flatMap, takeWhile_units, charsOfUnits_units, upToZero]

theorem encode_eq (s : String) : encode s = (units s.toList).flatMap bytesOfUnit ++ [0, 0] := by
  rw [encode, List.flatMap_append]
  rfl

theorem encode_ne_nil (s : String) : encode s ≠ [] := by
  rw [encode_eq]
  simp

/-- The bytes of a message are those of no other message. -/
theorem encode_injective {s t : String} (h : encode s = encode t) : s = t := by
  rw [encode_eq, encode_eq] at h
  have hbytes := List.append_cancel_right h
  have hunits : units s.toList = units t.toList := by
    rw [← unitsOfBytes_flatMap (units s.toList), hbytes, unitsOfBytes_flatMap]
  have hchars : s.toList = t.toList := by
    rw [← charsOfUnits_units s.toList, hunits, charsOfUnits_units]
  exact String.toList_inj.1 hchars

end KeyBridge.Wire
