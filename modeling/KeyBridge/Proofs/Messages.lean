-- SUMMARY: What is read of bytes: round trips, and the first bytes of a message.
import KeyBridge.Proofs.Cuts

/-!
# Messages

Whatever bytes are read, the text has no zero character, so it can be sent and read again. The bytes
that follow the first zero unit are not looked at, and neither is a byte without a partner.

The first bytes of a message are read as the longest beginning of its text that is there in whole
units, and a replacement character if a pair of surrogates was cut in two (`decode_take`).
-/

namespace KeyBridge.Wire

/-! ## Zero units -/

theorem takeWhile_zero (us rest : List UInt16) :
    (us ++ 0 :: rest).takeWhile (· ≠ 0) = us.takeWhile (· ≠ 0) := by
  induction us with
  | nil => rfl
  | cons u us ih =>
    by_cases hu : u = 0
    · simp [hu]
    · rw [List.cons_append, List.takeWhile_cons_of_pos (by simpa using hu),
        List.takeWhile_cons_of_pos (by simpa using hu), ih]

theorem charOfPair_ne_zero {u v : UInt16} (hhigh : isHigh u = true) (hlow : isLow v = true) :
    charOfPair u v ≠ '\x00' := by
  simp only [isHigh, isLow, Bool.and_eq_true, decide_eq_true_eq] at hhigh hlow
  intro hzero
  have hnat := congrArg Char.toNat hzero
  rw [charOfPair, toNat_ofNat (.inr ⟨by omega, by omega⟩)] at hnat
  change _ = 0 at hnat
  omega

theorem ofNat_ne_zero {u : UInt16} (hu : u ≠ 0) (hhigh : isHigh u = false) (hlow : isLow u = false) :
    Char.ofNat u.toNat ≠ '\x00' := by
  have hlt := u.toNat_lt
  simp only [isHigh, isLow, Bool.and_eq_false_iff, decide_eq_false_iff_not] at hhigh hlow
  have hvalid : u.toNat.isValidChar := by
    unfold Nat.isValidChar
    omega
  intro hzero
  have hnat := congrArg Char.toNat hzero
  rw [toNat_ofNat hvalid] at hnat
  exact hu (UInt16.toNat_inj.1 hnat)

theorem zero_not_mem_charsOfUnits {us : List UInt16} (h : 0 ∉ us) : '\x00' ∉ charsOfUnits us := by
  have hreplacement : replacement ≠ '\x00' := by decide
  fun_induction charsOfUnits us with
  | case1 => exact List.not_mem_nil
  | case2 u hu => exact fun hmem => hreplacement (List.mem_singleton.1 hmem).symm
  | case3 u hu =>
    obtain ⟨hhigh, hlow⟩ : isHigh u = false ∧ isLow u = false := by simpa using hu
    have hne : u ≠ 0 := fun hzero => h (hzero ▸ List.mem_cons_self)
    exact fun hmem => ofNat_ne_zero hne hhigh hlow (List.mem_singleton.1 hmem).symm
  | case4 u v rest hu hv ih =>
    refine List.not_mem_cons_of_ne_of_not_mem (charOfPair_ne_zero hu hv).symm (ih ?_)
    exact fun hmem => h (List.mem_cons_of_mem u (List.mem_cons_of_mem v hmem))
  | case5 u v rest hu hv ih =>
    exact List.not_mem_cons_of_ne_of_not_mem hreplacement.symm
      (ih fun hmem => h (List.mem_cons_of_mem u hmem))
  | case6 u v rest hu hv ih =>
    exact List.not_mem_cons_of_ne_of_not_mem hreplacement.symm
      (ih fun hmem => h (List.mem_cons_of_mem u hmem))
  | case7 u v rest hu hv ih =>
    have hne : u ≠ 0 := fun hzero => h (hzero ▸ List.mem_cons_self)
    have hchar := ofNat_ne_zero hne (by simpa using hu) (by simpa using hv)
    exact List.not_mem_cons_of_ne_of_not_mem hchar.symm
      (ih fun hmem => h (List.mem_cons_of_mem u hmem))

theorem zero_not_mem_decode (bytes : List UInt8) : '\x00' ∉ (decode bytes).toList := by
  rw [toList_decode, charsOf]
  refine zero_not_mem_charsOfUnits fun hmem => ?_
  simpa using List.all_eq_true.1 List.all_takeWhile _ hmem

/-! ## Bytes that are not looked at -/

theorem length_encode_eq (s : String) : (encode s).length = 2 * ((units s.toList).length + 1) := by
  rw [encode, length_flatMap_bytesOfUnit, List.length_append, List.length_singleton]

/-- A message is read back whatever follows it. -/
theorem decode_encode_append (s : String) (rest : List UInt8) :
    decode (encode s ++ rest) = upToZero s := by
  have heven : (encode s).length % 2 = 0 := by
    rw [length_encode_eq]
    exact Nat.mul_mod_right ..
  rw [decode, unitsOfBytes_append heven, unitsOfBytes_encode, List.append_assoc,
    List.singleton_append, takeWhile_units, charsOfUnits_units, upToZero]

theorem decode_concat {bytes : List UInt8} (heven : bytes.length % 2 = 0) (odd : UInt8) :
    decode (bytes ++ [odd]) = decode bytes := by
  have hnone : unitsOfBytes [odd] = [] := rfl
  rw [decode, unitsOfBytes_append heven, hnone, List.append_nil, decode]

theorem decode_ended {bytes : List UInt8} (heven : bytes.length % 2 = 0) (rest : List UInt8) :
    decode (bytes ++ 0 :: 0 :: rest) = decode bytes := by
  have hunits : unitsOfBytes (0 :: 0 :: rest) = 0 :: unitsOfBytes rest := rfl
  rw [decode, unitsOfBytes_append heven, hunits, takeWhile_zero, decode]

/-- A message is read back up to its first zero character, whatever follows it, so all of it if it
has none; different texts are different messages, and a message is made of whole units, one at the
least. Any bytes are read as a text without zero characters, which is read back when it is sent. A
byte after whole units does not change what is read, and neither does what follows a zero unit. -/
theorem decode_round_trip (s : String) (bytes rest : List UInt8) :
    (decode (encode s ++ rest) = upToZero s
      ∧ ('\x00' ∉ s.toList → decode (encode s ++ rest) = s)
      ∧ (∀ t, encode t = encode s → t = s)
      ∧ (encode s).length % 2 = 0 ∧ 2 ≤ (encode s).length)
    ∧ '\x00' ∉ (decode bytes).toList
    ∧ decode (encode (decode bytes)) = decode bytes
    ∧ (bytes.length % 2 = 0 →
      (∀ odd, decode (bytes ++ [odd]) = decode bytes)
      ∧ decode (bytes ++ 0 :: 0 :: rest) = decode bytes) := by
  have hlength := length_encode_eq s
  have hnone := zero_not_mem_decode bytes
  refine ⟨⟨decode_encode_append s rest, fun hs => ?_, fun t => encode_injective, by omega, by omega⟩,
    hnone, ?_, fun heven => ⟨decode_concat heven, decode_ended heven rest⟩⟩
  · rw [decode_encode_append, upToZero_eq_self hs]
  · rw [decode_encode, upToZero_eq_self hnone]

/-! ## The first bytes of a message -/

/-- The longest beginning of a text that has so many units at most. -/
structure LongestWithin (most : Nat) (cs p : List Char) : Prop where
  begins : p <+: cs
  fits : (units p).length ≤ most
  longest : ∀ q, q <+: cs → (units q).length ≤ most → q.length ≤ p.length

/-- To cut a text after so many units is to cut a pair of surrogates in two. -/
def SplitsPair (count : Nat) (cs : List Char) : Prop :=
  ∃ front c back, cs = front ++ c :: back ∧ 0x10000 ≤ c.toNat ∧ count = (units front).length + 1

section

variable {count : Nat} {cs p : List Char}

theorem length_unitsOfChar (c : Char) :
    (unitsOfChar c).length = if c.toNat < 0x10000 then 1 else 2 := by
  rw [unitsOfChar]
  split <;> rfl

theorem exists_longestWithin (most : Nat) (cs : List Char) : ∃ p, LongestWithin most cs p := by
  induction cs generalizing most with
  | nil => exact ⟨[], List.nil_prefix, Nat.zero_le _, fun q hq _ => hq.length_le⟩
  | cons c cs ih =>
    by_cases hfits : (unitsOfChar c).length ≤ most
    · obtain ⟨p, hbegins, hwithin, hlongest⟩ := ih (most - (unitsOfChar c).length)
      refine ⟨c :: p, List.cons_prefix_cons.2 ⟨rfl, hbegins⟩, ?_, fun q hq hqfits => ?_⟩
      · rw [units_cons, List.length_append]
        omega
      · cases q with
        | nil => exact Nat.zero_le _
        | cons d q =>
          obtain ⟨rfl, htail⟩ := List.cons_prefix_cons.1 hq
          rw [units_cons, List.length_append] at hqfits
          exact Nat.succ_le_succ (hlongest q htail (by omega))
    · refine ⟨[], List.nil_prefix, Nat.zero_le _, fun q hq hqfits => ?_⟩
      cases q with
      | nil => exact Nat.le_refl _
      | cons d q =>
        obtain ⟨rfl, -⟩ := List.cons_prefix_cons.1 hq
        rw [units_cons, List.length_append] at hqfits
        omega

/-- The character after the longest beginning does not fit any more. -/
theorem LongestWithin.next {c : Char} {back : List Char}
    (h : LongestWithin count (p ++ c :: back) p) :
    count < (units p).length + (unitsOfChar c).length := by
  apply Nat.lt_of_not_le
  intro hle
  have hbegins : p ++ [c] <+: p ++ c :: back := ⟨back, by simp⟩
  have hlonger := h.longest (p ++ [c]) hbegins (by
    rw [units_append, List.length_append]
    simpa [units] using hle)
  rw [List.length_append, List.length_singleton] at hlonger
  omega

/-- A pair was cut in two exactly if there is room for one more unit. -/
theorem LongestWithin.splitsPair_iff (h : LongestWithin count cs p) :
    SplitsPair count cs ↔ p ≠ cs ∧ count = (units p).length + 1 := by
  constructor
  · rintro ⟨front, c, back, rfl, hc, hcount⟩
    have htwo : (unitsOfChar c).length = 2 := by
      rw [length_unitsOfChar, if_neg (Nat.not_lt.2 hc)]
    have hle := h.longest front ⟨c :: back, rfl⟩ (by omega)
    -- A longer beginning would hold the pair.
    have hsame : p = front := by
      obtain ⟨rest, rfl⟩ := List.prefix_of_prefix_length_le ⟨c :: back, rfl⟩ h.begins hle
      cases rest with
      | nil => exact List.append_nil _
      | cons d rest =>
        obtain ⟨more, hmore⟩ := h.begins
        rw [List.append_assoc] at hmore
        obtain ⟨rfl, -⟩ := List.cons.inj (List.append_cancel_left hmore)
        have hfits := h.fits
        rw [units_append, List.length_append, units_cons, List.length_append] at hfits
        omega
    subst hsame
    exact ⟨by simp, hcount⟩
  · rintro ⟨hne, hcount⟩
    obtain ⟨_ | ⟨c, back⟩, rfl⟩ := h.begins
    · exact absurd (List.append_nil p).symm hne
    · have hnext := h.next
      rw [length_unitsOfChar] at hnext
      refine ⟨p, c, back, rfl, ?_, hcount⟩
      apply Nat.le_of_not_lt
      intro hbasic
      rw [if_pos hbasic] at hnext
      omega

/-- The units of a text up to a cut are read as its longest beginning, and a replacement character
for half a pair. -/
theorem LongestWithin.read (h : LongestWithin count cs p) :
    SplitsPair count cs ∧ charsOfUnits ((units cs).take count) = p ++ [replacement]
      ∨ ¬ SplitsPair count cs ∧ charsOfUnits ((units cs).take count) = p := by
  have hfits := h.fits
  rw [h.splitsPair_iff]
  obtain ⟨_ | ⟨c, back⟩, rfl⟩ := h.begins
  · rw [List.append_nil, List.take_of_length_le hfits, charsOfUnits_units]
    exact .inr ⟨fun hsplits => hsplits.1 rfl, rfl⟩
  · have hnext := h.next
    rw [units_append, List.take_append, List.take_of_length_le hfits, charsOfUnits_units_append,
      units_cons]
    by_cases hfull : count = (units p).length
    · right
      rw [hfull, Nat.sub_self, List.take_zero]
      exact ⟨fun hsplits => by omega, List.append_nil _⟩
    · have hbeyond : 0x10000 ≤ c.toNat := by
        rw [length_unitsOfChar] at hnext
        split at hnext <;> omega
      obtain ⟨high, low, hunits, hhigh, -⟩ := unitsOfChar_pair hbeyond
      rw [hunits] at hnext ⊢
      have hone : count - (units p).length = 1 := by
        simp only [List.length_cons, List.length_nil] at hnext
        omega
      rw [hone]
      left
      exact ⟨⟨by simp, by omega⟩, by simp [charsOfUnits, hhigh]⟩

end

/-- The first bytes of a message are read as the longest beginning of the text that is there in whole
units, followed by one replacement character exactly if a pair of surrogates was cut in two. -/
theorem decode_take {s : String} (hs : '\x00' ∉ s.toList) (count : Nat) :
    ∃ p, LongestWithin (count / 2) s.toList p
      ∧ (SplitsPair (count / 2) s.toList
          ∧ (decode ((encode s).take count)).toList = p ++ [replacement]
        ∨ ¬ SplitsPair (count / 2) s.toList ∧ (decode ((encode s).take count)).toList = p) := by
  obtain ⟨p, hp⟩ := exists_longestWithin (count / 2) s.toList
  have hnonzero : ∀ u ∈ (units s.toList).take (count / 2), decide (u ≠ 0) = true := fun u hu =>
    decide_eq_true (ne_zero_of_mem_units hs (List.mem_of_mem_take hu))
  have hend (k : Nat) : ([0].take k).takeWhile (· ≠ (0 : UInt16)) = [] := by
    cases k <;> rfl
  refine ⟨p, hp, ?_⟩
  rw [toList_decode, charsOf, unitsOfBytes_take, unitsOfBytes_encode, List.take_append,
    List.takeWhile_append_of_pos hnonzero, hend, List.append_nil]
  exact hp.read

/-- What follows a message does not matter for its first bytes, and neither does it once all of the
message is there. -/
theorem decode_take_append (s : String) (rest : List UInt8) (count : Nat) :
    decode ((encode s ++ rest).take count)
      = decode ((encode s).take (min (encode s).length count)) := by
  by_cases hle : count ≤ (encode s).length
  · rw [List.take_append_of_le_length hle, Nat.min_eq_right hle]
  · have hlt : (encode s).length ≤ count := Nat.le_of_not_le hle
    rw [List.take_append, List.take_of_length_le hlt, decode_encode_append,
      Nat.min_eq_left hlt, List.take_length, decode_encode]

end KeyBridge.Wire
