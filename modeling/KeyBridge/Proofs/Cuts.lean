-- SUMMARY: What is read of a message that comes in pieces.
import KeyBridge.Network.Pipe
import KeyBridge.Proofs.Codec

/-!
# Cuts

A message that does not fit in the buffer is read in pieces, and each piece is decoded by itself. A
cut between two units does no harm. A cut through a unit leaves a lone byte at the end of one piece,
which is lost, and moves all that follows by one byte. The message could still come out right only
if the pieces after it held as many characters as they should, and then the last of them would be
read from the last high byte and the zero that ends the message.

`Cut` says how a request that is sent in one go can be cut between the pipe and a buffer.
-/

namespace KeyBridge.Wire

/-! ## Decoding bytes in pieces -/

/-- The characters that are read from some bytes. -/
def charsOf (bytes : List UInt8) : List Char :=
  charsOfUnits ((unitsOfBytes bytes).takeWhile (· ≠ 0))

theorem toList_decode (bytes : List UInt8) : (decode bytes).toList = charsOf bytes :=
  String.toList_ofList

/-- The texts that are read from pieces, one after the other. -/
def textOf (pieces : List (List UInt8)) : String := String.join (pieces.map decode)

theorem toList_textOf (pieces : List (List UInt8)) :
    (textOf pieces).toList = pieces.flatMap charsOf := by
  induction pieces with
  | nil => rfl
  | cons p pieces ih =>
    rw [List.flatMap_cons, ← ih, ← toList_decode, ← String.toList_append]
    simp [textOf]

/-- Bytes that are no unit. -/
theorem length_le_one {bytes : List UInt8}
    (h : ∀ low high rest, bytes = low :: high :: rest → False) : bytes.length ≤ 1 := by
  rcases bytes with _ | ⟨low, _ | ⟨high, rest⟩⟩
  · exact Nat.zero_le 1
  · exact Nat.le_refl 1
  · exact (h low high rest rfl).elim

theorem length_unitsOfBytes (bytes : List UInt8) :
    (unitsOfBytes bytes).length = bytes.length / 2 := by
  fun_induction unitsOfBytes bytes with
  | case1 low high rest ih =>
    simp only [List.length_cons, ih]
    omega
  | case2 bytes hshort =>
    have := length_le_one hshort
    rw [List.length_nil]
    omega

/-- Bytes are read as units in pieces as well as at once if no unit is cut. -/
theorem unitsOfBytes_append {x : List UInt8} (hx : x.length % 2 = 0) (y : List UInt8) :
    unitsOfBytes (x ++ y) = unitsOfBytes x ++ unitsOfBytes y := by
  induction x using unitsOfBytes.induct with
  | case1 low high rest ih =>
    have hrest : rest.length % 2 = 0 := by
      simp only [List.length_cons] at hx
      omega
    simp only [List.cons_append, unitsOfBytes, ih hrest]
  | case2 x hshort =>
    have := length_le_one hshort
    rw [List.eq_nil_of_length_eq_zero (l := x) (by omega)]
    rfl

theorem length_charsOfUnits_le (us : List UInt16) : (charsOfUnits us).length ≤ us.length := by
  fun_induction charsOfUnits us
  all_goals simp only [List.length_cons, List.length_nil] at *
  all_goals omega

/-- A unit that is no surrogate is read as it is, whatever stands before it. -/
theorem charsOfUnits_concat {u : UInt16} (us : List UInt16) (hhigh : isHigh u = false)
    (hlow : isLow u = false) :
    charsOfUnits (us ++ [u]) = charsOfUnits us ++ [Char.ofNat u.toNat] := by
  fun_induction charsOfUnits us with
  | case1 => simp [charsOfUnits, hhigh, hlow]
  | case2 v hv =>
    rcases hhigh' : isHigh v
    · have hlow' : isLow v = true := by simpa [hhigh'] using hv
      simp [charsOfUnits, hhigh, hlow, hhigh', hlow']
    · simp [charsOfUnits, hhigh, hlow, hhigh']
  | case3 v hv =>
    obtain ⟨hhigh', hlow'⟩ : isHigh v = false ∧ isLow v = false := by simpa using hv
    simp [charsOfUnits, hhigh, hlow, hhigh', hlow']
  | case4 v w rest hv hw ih =>
    simpa [charsOfUnits, hv, hw] using ih
  | case5 v w rest hv hw ih =>
    simpa [charsOfUnits, hv, hw] using ih
  | case6 v w rest hv hw ih =>
    simpa [charsOfUnits, hv, hw] using ih
  | case7 v w rest hv hw ih =>
    simpa [charsOfUnits, hv, hw] using ih

theorem length_charsOf_le (bytes : List UInt8) : (charsOf bytes).length ≤ bytes.length / 2 := by
  rw [← length_unitsOfBytes]
  exact Nat.le_trans (length_charsOfUnits_le _) (List.takeWhile_sublist _).length_le

/-- Pieces hold no more characters than all their bytes together would. -/
theorem length_flatMap_charsOf_le (pieces : List (List UInt8)) :
    (pieces.flatMap charsOf).length ≤ pieces.flatten.length / 2 := by
  induction pieces with
  | nil => exact Nat.le_refl _
  | cons p pieces ih =>
    have := length_charsOf_le p
    rw [List.flatMap_cons, List.flatten_cons, List.length_append, List.length_append]
    omega

/-! ## Cuts between units -/

/-- A character that is one unit and does not end a message. -/
def Plain (c : Char) : Prop := c ≠ '\x00' ∧ c.toNat < 0x10000

instance (c : Char) : Decidable (Plain c) := inferInstanceAs (Decidable (_ ∧ _))

/-- The unit of a plain character. -/
def unitOf (c : Char) : UInt16 := UInt16.ofNat c.toNat

section

variable {cs : List Char}

theorem units_of_plain (hplain : ∀ c ∈ cs, Plain c) : units cs = cs.map unitOf := by
  induction cs with
  | nil => rfl
  | cons c cs ih =>
    have hone : unitsOfChar c = [unitOf c] := if_pos (hplain c List.mem_cons_self).2
    have hrest := ih fun c hc => hplain c (List.mem_cons_of_mem _ hc)
    rw [List.map_cons, ← hrest, units, List.flatMap_cons, hone]
    rfl

/-- Units that are characters are read as these characters. -/
theorem read_plain (hplain : ∀ c ∈ cs, Plain c) :
    charsOfUnits ((cs.map unitOf).takeWhile (· ≠ 0)) = cs := by
  have hnonzero : ∀ u ∈ units cs, decide (u ≠ 0) = true := fun u hu =>
    decide_eq_true (ne_zero_of_mem_units (fun hzero => (hplain _ hzero).1 rfl) hu)
  have hwhole : (units cs).takeWhile (· ≠ 0) = units cs := by
    simpa using @List.takeWhile_append_of_pos _ _ _ [] hnonzero
  rw [← units_of_plain hplain, hwhole, charsOfUnits_units]

/-- Units of a message are read in parts as the message, however they are parted. -/
theorem read_parts {parts : List (List UInt16)} (hplain : ∀ c ∈ cs, Plain c)
    (hparts : parts.flatten = cs.map unitOf ++ [0]) :
    (parts.flatMap fun part => charsOfUnits (part.takeWhile (· ≠ 0))) = cs := by
  induction parts generalizing cs with
  | nil => simp at hparts
  | cons part parts ih =>
    rw [List.flatten_cons] at hparts
    have hwithin (more : List UInt16) (hsplit : cs.map unitOf = part ++ more)
        (hrest : parts.flatten = more ++ [0]) :
        ((part :: parts).flatMap fun part => charsOfUnits (part.takeWhile (· ≠ 0))) = cs := by
      obtain ⟨front, back, rfl, rfl, rfl⟩ := List.map_eq_append_iff.1 hsplit
      rw [List.flatMap_cons, read_plain fun c hc => hplain c (List.mem_append_left _ hc),
        ih (fun c hc => hplain c (List.mem_append_right _ hc)) hrest]
    rcases List.append_eq_append_iff.1 hparts with ⟨more, hsplit, hrest⟩ | ⟨more, hpart, hzero⟩
    · exact hwithin more hsplit hrest
    · rcases more with _ | ⟨u, more⟩
      · exact hwithin [] (by rw [hpart]; simp) (by simpa using hzero.symm)
      · obtain ⟨rfl, hnone⟩ := List.cons.inj hzero
        obtain ⟨rfl, hsilence⟩ : more = [] ∧ parts.flatten = [] :=
          List.append_eq_nil_iff.1 hnone.symm
        have hsilent : (parts.flatMap fun part => charsOfUnits (part.takeWhile (· ≠ 0))) = [] := by
          rw [List.flatMap_eq_nil_iff]
          intro part hmem
          rw [List.flatten_eq_nil_iff.1 hsilence part hmem]
          rfl
        have hread : charsOfUnits ((cs.map unitOf ++ [0]).takeWhile (· ≠ 0)) = cs := by
          have hall : cs.takeWhile (· ≠ '\x00') = cs := by
            have hne : ∀ c ∈ cs, decide (c ≠ '\x00') = true := fun c hc =>
              decide_eq_true (hplain c hc).1
            simpa using @List.takeWhile_append_of_pos _ _ _ [] hne
          rw [← units_of_plain hplain, takeWhile_units, hall, charsOfUnits_units]
        rw [List.flatMap_cons, hsilent, List.append_nil, hpart, hread]

theorem unitsOfBytes_encode (m : String) : unitsOfBytes (encode m) = units m.toList ++ [0] :=
  unitsOfBytes_flatMap _

theorem length_flatMap_bytesOfUnit (us : List UInt16) :
    (us.flatMap bytesOfUnit).length = 2 * us.length := by
  induction us with
  | nil => rfl
  | cons u us ih =>
    rw [List.flatMap_cons, List.length_append, ih, List.length_cons]
    show 2 + 2 * us.length = 2 * (us.length + 1)
    omega

theorem length_encode_of_plain {m : String} (hplain : ∀ c ∈ m.toList, Plain c) :
    (encode m).length = 2 * m.toList.length + 2 := by
  rw [encode_eq, List.length_append, length_flatMap_bytesOfUnit, units_of_plain hplain,
    List.length_map]
  rfl

/-- A message that is cut between its units is read whole. -/
theorem textOf_even {m : String} {pieces : List (List UInt8)} (hplain : ∀ c ∈ m.toList, Plain c)
    (hwhole : pieces.flatten = encode m) (heven : ∀ p ∈ pieces, p.length % 2 = 0) :
    textOf pieces = m := by
  have hunits : (pieces.map unitsOfBytes).flatten = unitsOfBytes pieces.flatten := by
    clear hwhole
    induction pieces with
    | nil => rfl
    | cons p pieces ih =>
      rw [List.flatten_cons, unitsOfBytes_append (heven p List.mem_cons_self), List.map_cons,
        List.flatten_cons, ih fun p hp => heven p (List.mem_cons_of_mem _ hp)]
  rw [hwhole, unitsOfBytes_encode, units_of_plain hplain] at hunits
  have hread := read_parts hplain hunits
  rw [List.flatMap_map] at hread
  apply String.toList_inj.1
  rw [toList_textOf]
  exact hread

theorem unitsOfBytes_take (bytes : List UInt8) (count : Nat) :
    unitsOfBytes (bytes.take count) = (unitsOfBytes bytes).take (count / 2) := by
  fun_induction unitsOfBytes bytes generalizing count with
  | case1 low high rest ih =>
    rcases count with _ | _ | count
    · rfl
    · rfl
    · have hhalf : (count + 1 + 1) / 2 = count / 2 + 1 := by omega
      simp only [List.take_succ_cons, unitsOfBytes, ih, hhalf]
  | case2 bytes hshort =>
    have hlength := length_unitsOfBytes (bytes.take count)
    have hle := length_le_one hshort
    rw [List.length_take] at hlength
    rw [List.take_nil]
    exact List.eq_nil_of_length_eq_zero (by omega)

/-- The first bytes of a message are read as its first characters. -/
theorem charsOf_take {m : String} (hplain : ∀ c ∈ m.toList, Plain c) (count : Nat) :
    charsOf ((encode m).take count) = m.toList.take (count / 2) := by
  rw [charsOf, unitsOfBytes_take, unitsOfBytes_encode, units_of_plain hplain]
  by_cases hle : count / 2 ≤ m.toList.length
  · rw [List.take_append_of_le_length (by simpa using hle), ← List.map_take]
    exact read_plain fun c hc => hplain c (List.mem_of_mem_take hc)
  · rw [List.take_of_length_le (by simp; omega), List.take_of_length_le (by omega)]
    simpa using @read_parts _ [m.toList.map unitOf ++ [0]] hplain (by simp)

/-- A message of which the last byte is cut off is read whole. -/
theorem textOf_almost {m : String} {count : Nat} {rest : List (List UInt8)}
    (hplain : ∀ c ∈ m.toList, Plain c) (hcount : (encode m).length ≤ count + 1)
    (hwhole : ((encode m).take count :: rest).flatten = encode m) :
    textOf ((encode m).take count :: rest) = m := by
  have hlength := length_encode_of_plain hplain
  have hrest := congrArg List.length hwhole
  rw [List.flatten_cons, List.length_append, List.length_take] at hrest
  have hsilent : rest.flatMap charsOf = [] := by
    have := length_flatMap_charsOf_le rest
    exact List.eq_nil_of_length_eq_zero (by omega)
  apply String.toList_inj.1
  rw [toList_textOf, List.flatMap_cons, hsilent, List.append_nil, charsOf_take hplain]
  exact List.take_of_length_le (by omega)

end

/-! ## Cuts through units -/

/-- Bytes that hold as many characters as they can, and end with a high byte, a zero and at most one
more byte: the last character is read from the two. -/
theorem charsOf_end {front tail : List UInt8} {high : UInt8} (hfront : front.length % 2 = 0)
    (htail : tail.length ≤ 1)
    (hfull : (charsOf (front ++ high :: 0 :: tail)).length = front.length / 2 + 1) :
    high ≠ 0 ∧ ∃ cs, charsOf (front ++ high :: 0 :: tail) = cs ++ [Char.ofNat high.toNat] := by
  have hlt := high.toNat_lt
  have hvalue : (UInt16.ofNat high.toNat).toNat = high.toNat := by
    rw [UInt16.toNat_ofNat']
    omega
  have hnone : unitsOfBytes tail = [] := by
    have := length_unitsOfBytes tail
    exact List.eq_nil_of_length_eq_zero (by omega)
  have hunits : unitsOfBytes (front ++ high :: 0 :: tail)
      = unitsOfBytes front ++ [UInt16.ofNat high.toNat] := by
    rw [unitsOfBytes_append hfront, unitsOfBytes, hnone]
    simp
  have hlength := length_unitsOfBytes front
  rw [charsOf, hunits] at hfull ⊢
  have hwhole : (unitsOfBytes front ++ [UInt16.ofNat high.toNat]).takeWhile (· ≠ 0)
      = unitsOfBytes front ++ [UInt16.ofNat high.toNat] := by
    have hle := length_charsOfUnits_le
      ((unitsOfBytes front ++ [UInt16.ofNat high.toNat]).takeWhile (· ≠ 0))
    apply (List.takeWhile_prefix _).eq_of_length_le
    rw [List.length_append, List.length_singleton, hlength]
    omega
  constructor
  · rintro rfl
    have hmem : (0 : UInt16) ∈ (unitsOfBytes front ++ [UInt16.ofNat (0 : UInt8).toNat]).takeWhile
        (· ≠ 0) := by
      rw [hwhole]
      exact List.mem_append_right _ List.mem_cons_self
    simpa using List.all_eq_true.1 List.all_takeWhile _ hmem
  · rw [hwhole, charsOfUnits_concat, hvalue]
    · exact ⟨_, rfl⟩
    · simp only [isHigh, hvalue, Bool.and_eq_false_iff, decide_eq_false_iff_not]
      omega
    · simp only [isLow, hvalue, Bool.and_eq_false_iff, decide_eq_false_iff_not]
      omega

/-- A zero unit at the end is no character. -/
theorem length_charsOf_ended {front : List UInt8} (hfront : front.length % 2 = 0) :
    (charsOf (front ++ [0, 0])).length ≤ front.length / 2 := by
  have hunits : unitsOfBytes (front ++ [0, 0]) = unitsOfBytes front ++ [0] :=
    unitsOfBytes_append hfront _
  have hread : (unitsOfBytes front ++ [0]).takeWhile (· ≠ 0)
      = (unitsOfBytes front).takeWhile (· ≠ 0) := by
    rw [List.takeWhile_append]
    split
    · rename_i hwhole
      have hself := (List.takeWhile_prefix (p := (· ≠ (0 : UInt16)))
        (l := unitsOfBytes front)).eq_of_length hwhole
      rw [hself]
      simp
    · rfl
  rw [charsOf, hunits, hread]
  exact length_charsOf_le front

/-- The last of some pieces, where the bytes of all of them end. -/
theorem exists_last {pieces : List (List UInt8)} {front tail : List UInt8}
    (hfilled : ∀ p ∈ pieces, p ≠ []) (hflat : pieces.flatten = front ++ tail) (htail : tail ≠ []) :
    ∃ before p, pieces = before ++ [p] ∧ p ≠ [] ∧ before.flatten ++ p = front ++ tail
      ∧ (tail.length ≤ p.length → ∃ more, p = more ++ tail ∧ before.flatten ++ more = front) := by
  rcases List.eq_nil_or_concat pieces with rfl | ⟨before, p, hpieces⟩
  · exact absurd (List.append_eq_nil_iff.1 hflat.symm).2 htail
  rw [List.concat_eq_append] at hpieces
  subst hpieces
  have hjoin : before.flatten ++ p = front ++ tail := by simpa using hflat
  refine ⟨before, p, rfl, hfilled p (by simp), hjoin, fun hlong => ?_⟩
  rcases List.append_eq_append_iff.1 hjoin with ⟨more, hfront, hp⟩ | ⟨more, hbefore, ht⟩
  · exact ⟨more, hp, hfront.symm⟩
  · have hnone : more = [] := by
      have := congrArg List.length ht
      rw [List.length_append] at this
      exact List.eq_nil_of_length_eq_zero (by omega)
    subst hnone
    exact ⟨[], by simpa using ht.symm, by simpa using hbefore⟩

/-- Pieces that begin at a high byte, and end with a high byte and one zero. -/
theorem misread_end {pieces : List (List UInt8)} {front : List UInt8} {high : UInt8}
    (hfilled : ∀ p ∈ pieces, p ≠ []) (hfront : front.length % 2 = 0)
    (hflat : pieces.flatten = front ++ [high, 0])
    (hfull : (pieces.flatMap charsOf).length = front.length / 2 + 1) :
    high ≠ 0 ∧ ∃ cs, pieces.flatMap charsOf = cs ++ [Char.ofNat high.toNat] := by
  obtain ⟨before, p, rfl, hp, hjoin, hends⟩ := exists_last hfilled hflat (by simp)
  have hlengths := congrArg List.length hjoin
  have hbefore := length_flatMap_charsOf_le before
  have hlast := length_charsOf_le p
  have hpos := List.length_pos_iff.2 hp
  rw [List.flatMap_append, List.flatMap_singleton] at hfull ⊢
  simp only [List.length_append, List.length_cons, List.length_nil] at hfull hlengths
  -- Nothing is lost, so no piece is cut through a unit.
  have heven : p.length % 2 = 0 := by omega
  obtain ⟨more, rfl, hmore⟩ := hends (by simp only [List.length_cons, List.length_nil]; omega)
  simp only [List.length_append, List.length_cons, List.length_nil] at heven hlengths hlast
  obtain ⟨hne, cs, hcs⟩ := @charsOf_end more [] high (by omega)
    (by simp) (by omega)
  exact ⟨hne, before.flatMap charsOf ++ cs, by rw [hcs, List.append_assoc]⟩

/-- Pieces that begin at the high byte of one unit, and end with that of another and the end of the
message: if they hold as many characters as they should, the last is read from the high byte. -/
theorem misread {pieces : List (List UInt8)} {front : List UInt8} {high : UInt8}
    (hfilled : ∀ p ∈ pieces, p ≠ []) (hfront : front.length % 2 = 0)
    (hflat : pieces.flatten = front ++ [high, 0, 0])
    (hfull : (pieces.flatMap charsOf).length = front.length / 2 + 1) :
    high ≠ 0 ∧ ∃ cs, pieces.flatMap charsOf = cs ++ [Char.ofNat high.toNat] := by
  obtain ⟨before, p, rfl, hp, hjoin, hends⟩ := exists_last hfilled hflat (by simp)
  have hlengths := congrArg List.length hjoin
  have hbefore := length_flatMap_charsOf_le before
  have hlast := length_charsOf_le p
  have hpos := List.length_pos_iff.2 hp
  by_cases hone : p.length = 1
  · -- The last byte comes alone.
    have hp : p = [0] ∧ before.flatten = front ++ [high, 0] := by
      have hjoin : before.flatten ++ p = (front ++ [high, 0]) ++ [0] := by simpa using hjoin
      obtain ⟨hbefore, hp⟩ := List.append_inj' hjoin (by simpa using hone)
      exact ⟨hp, hbefore⟩
    have hsilent : (before ++ [p]).flatMap charsOf = before.flatMap charsOf := by
      rw [hp.1]
      simp [charsOf, unitsOfBytes, charsOfUnits]
    rw [hsilent] at hfull ⊢
    exact misread_end (fun p hp => hfilled p (List.mem_append_left _ hp)) hfront hp.2 hfull
  rw [List.flatMap_append, List.flatMap_singleton] at hfull ⊢
  simp only [List.length_append, List.length_cons, List.length_nil] at hfull hlengths
  by_cases htwo : p.length = 2
  · -- The end of the message comes alone, so that a byte before it is lost.
    have hp : p = [0, 0] := by
      have hjoin : before.flatten ++ p = (front ++ [high]) ++ [0, 0] := by simpa using hjoin
      exact (List.append_inj' hjoin (by simpa using htwo)).2
    have hsilent : charsOf p = [] := by
      rw [hp]
      rfl
    rw [hsilent, List.length_nil] at hfull
    omega
  · obtain ⟨more, rfl, hmore⟩ := hends (by simp only [List.length_cons, List.length_nil]; omega)
    simp only [List.length_append, List.length_cons, List.length_nil] at hlengths hlast
    by_cases heven : more.length % 2 = 0
    · obtain ⟨hne, cs, hcs⟩ := @charsOf_end more [0] high heven
        (by simp) (by omega)
      exact ⟨hne, before.flatMap charsOf ++ cs, by rw [hcs, List.append_assoc]⟩
    · -- The last piece ends with the end of the message, so that a byte before it is lost.
      have hsplit : more ++ [high, 0, 0] = (more ++ [high]) ++ [0, 0] := by simp
      have hended := @length_charsOf_ended (more ++ [high])
        (by rw [List.length_append, List.length_singleton]; omega)
      rw [← hsplit, List.length_append, List.length_singleton] at hended
      omega

/-- The last character of a message and its end, on the wire. -/
theorem encode_concat {m : String} {cs : List Char} {c : Char} (hm : m.toList = cs ++ [c])
    (hplain : ∀ d ∈ m.toList, Plain d) :
    ∃ front low high, encode m = front ++ [low, high, 0, 0] ∧ front.length = 2 * cs.length
      ∧ c.toNat = low.toNat + 256 * high.toNat := by
  have hc : c.toNat < 0x10000 := (hplain c (by simp [hm])).2
  refine ⟨(cs.map unitOf).flatMap bytesOfUnit, UInt8.ofNat ((unitOf c).toNat % 256),
    UInt8.ofNat ((unitOf c).toNat / 256), ?_, ?_, ?_⟩
  · rw [encode_eq, units_of_plain hplain, hm, List.map_append, List.flatMap_append,
      List.append_assoc]
    rfl
  · rw [length_flatMap_bytesOfUnit, List.length_map]
  · rw [unitOf, UInt16.toNat_ofNat', UInt8.toNat_ofNat', UInt8.toNat_ofNat']
    omega

/-- A message whose first piece ends in the midst of a unit, other than the last one, is not read as
it is. -/
theorem textOf_ne {m : String} {half : Nat} {rest : List (List UInt8)}
    (hplain : ∀ c ∈ m.toList, Plain c) (hfilled : ∀ p ∈ rest, p ≠ [])
    (hlong : 2 * half + 4 ≤ (encode m).length)
    (hwhole : ((encode m).take (2 * half + 1) :: rest).flatten = encode m) :
    textOf ((encode m).take (2 * half + 1) :: rest) ≠ m := by
  intro hread
  have hlength := length_encode_of_plain hplain
  obtain ⟨cs, c, hm⟩ : ∃ cs c, m.toList = cs ++ [c] := by
    rcases List.eq_nil_or_concat m.toList with hnil | ⟨cs, c, hm⟩
    · rw [hnil, List.length_nil] at hlength
      omega
    · exact ⟨cs, c, by rw [hm, List.concat_eq_append]⟩
  obtain ⟨front, low, high, hencode, hfront, hc⟩ := encode_concat hm hplain
  have hcount : half ≤ cs.length := by
    rw [hm, List.length_append, List.length_singleton] at hlength
    omega
  have hflat : rest.flatten = (front ++ [low]).drop (2 * half + 1) ++ [high, 0, 0] := by
    rw [List.flatten_cons] at hwhole
    have hrest := List.append_cancel_left
      (hwhole.trans (List.take_append_drop (2 * half + 1) (encode m)).symm)
    have hsplit : encode m = (front ++ [low]) ++ [high, 0, 0] := by rw [hencode]; simp
    rw [hrest, hsplit, List.drop_append_of_le_length]
    rw [List.length_append, List.length_singleton]
    omega
  have hchars : rest.flatMap charsOf = cs.drop half ++ [c] := by
    have hall := congrArg String.toList hread
    rw [toList_textOf, List.flatMap_cons, charsOf_take hplain] at hall
    have hdrop := List.append_cancel_left
      (hall.trans (List.take_append_drop ((2 * half + 1) / 2) m.toList).symm)
    have hhalf : (2 * half + 1) / 2 = half := by omega
    rw [hdrop, hhalf, hm, List.drop_append_of_le_length hcount]
  have hrestFront : ((front ++ [low]).drop (2 * half + 1)).length = 2 * (cs.length - half) := by
    rw [List.length_drop, List.length_append, List.length_singleton]
    omega
  obtain ⟨hne, more, hmore⟩ := misread hfilled (by omega) hflat (by
    rw [hchars, hrestFront, List.length_append, List.length_drop, List.length_singleton]
    omega)
  -- So the last character is read from its high byte alone, though it was read from both.
  rw [hchars] at hmore
  have hlast : c = Char.ofNat high.toNat :=
    List.singleton_inj.1 (List.append_inj_right' hmore rfl)
  have hlt := high.toNat_lt
  have hvalue : c.toNat = high.toNat := by
    rw [hlast, toNat_ofNat (.inl (by omega))]
  have hpos : high.toNat ≠ 0 := fun hzero => hne (UInt8.toNat_inj.1 hzero)
  omega

/-! ## How a request is cut -/

/-- How a request that a client hands over in one go can be cut: the pieces that a server with this
buffer read of it, what is in the pipe, and what the client has yet to write. -/
inductive Cut (buffer : Nat) (request : List UInt8) :
    List (List UInt8) → List UInt8 → List UInt8 → Prop where
  | start : Cut buffer request [] (request.take Pipe.capacity) (request.drop Pipe.capacity)
  | read {pieces : List (List UInt8)} {asked later : List UInt8} :
      Cut buffer request pieces asked later → asked ≠ [] →
      Cut buffer request (pieces ++ [asked.take buffer]) (asked.drop buffer) later
  | write {pieces : List (List UInt8)} {asked later : List UInt8} :
      Cut buffer request pieces asked later → later ≠ [] → asked.length < Pipe.capacity →
      Cut buffer request pieces (asked ++ later.take (Pipe.capacity - asked.length))
        (later.drop (Pipe.capacity - asked.length))

section

variable {buffer : Nat} {request asked later : List UInt8} {pieces : List (List UInt8)}

/-- Nothing is lost on the way. -/
theorem Cut.whole (h : Cut buffer request pieces asked later) :
    pieces.flatten ++ asked ++ later = request := by
  induction h with
  | start => simp
  | read _ _ ih => simpa using ih
  | write _ _ _ ih => simpa using ih

theorem Cut.filled (h : Cut buffer request pieces asked later) (hbuffer : 0 < buffer) :
    ∀ p ∈ pieces, p ≠ [] := by
  induction h with
  | start => simp
  | read _ hne ih =>
    intro p hp
    rcases List.mem_append.1 hp with hp | hp
    · exact ih p hp
    · rw [List.mem_singleton.1 hp, Ne, List.take_eq_nil_iff]
      exact fun hnil => hnil.elim (by omega) hne
  | write _ _ _ ih => exact ih

/-- The first piece is as much of the request as the pipe and the buffer hold. -/
theorem Cut.first (h : Cut buffer request pieces asked later) :
    (pieces = [] ∧ asked = request.take Pipe.capacity ∧ later = request.drop Pipe.capacity)
      ∨ ∃ rest, pieces = request.take (min buffer Pipe.capacity) :: rest := by
  induction h with
  | start => exact .inl ⟨rfl, rfl, rfl⟩
  | read _ _ ih =>
    rcases ih with ⟨rfl, rfl, -⟩ | ⟨rest, rfl⟩
    · exact .inr ⟨[], by rw [List.take_take]; rfl⟩
    · exact .inr ⟨_, List.cons_append⟩
  | write _ hne hroom ih =>
    rcases ih with ⟨-, rfl, rfl⟩ | hrest
    · -- The client writes no more before the pipe is read.
      rw [List.length_take] at hroom
      exact absurd (List.drop_eq_nil_of_le (by omega)) hne
    · exact .inr hrest

/-- No unit is cut if the buffer is even, or holds all that the pipe holds. -/
theorem Cut.even (h : Cut buffer request pieces asked later)
    (hbuffer : buffer % 2 = 0 ∨ Pipe.capacity ≤ buffer) (hrequest : request.length % 2 = 0) :
    asked.length ≤ Pipe.capacity ∧ asked.length % 2 = 0 ∧ later.length % 2 = 0
      ∧ ∀ p ∈ pieces, p.length % 2 = 0 := by
  have hcapacity : Pipe.capacity % 2 = 0 := rfl
  induction h with
  | start =>
    rw [List.length_take, List.length_drop]
    refine ⟨by omega, by omega, by omega, by simp⟩
  | read _ _ ih =>
    obtain ⟨hfits, hasked, hlater, hpieces⟩ := ih
    rw [List.length_drop]
    refine ⟨by omega, by omega, hlater, fun p hp => ?_⟩
    rcases List.mem_append.1 hp with hp | hp
    · exact hpieces p hp
    · rw [List.mem_singleton.1 hp, List.length_take]
      omega
  | write _ _ _ ih =>
    obtain ⟨hfits, hasked, hlater, hpieces⟩ := ih
    rw [List.length_append, List.length_take, List.length_drop]
    exact ⟨by omega, by omega, by omega, hpieces⟩

/-- A message that was read to its end came out right exactly if no unit but the last was cut. -/
theorem Cut.textOf_eq_iff {m : String} (h : Cut buffer (encode m) pieces [] [])
    (hbuffer : 0 < buffer) (hplain : ∀ c ∈ m.toList, Plain c) :
    textOf pieces = m
      ↔ buffer % 2 = 0 ∨ Pipe.capacity ≤ buffer ∨ (encode m).length ≤ buffer + 1 := by
  have hlength := length_encode_of_plain hplain
  have hwhole : pieces.flatten = encode m := by simpa using h.whole
  have heven (hwide : buffer % 2 = 0 ∨ Pipe.capacity ≤ buffer) : textOf pieces = m :=
    textOf_even hplain hwhole (h.even hwide (by omega)).2.2.2
  obtain ⟨rest, hpieces⟩ : ∃ rest, pieces = (encode m).take (min buffer Pipe.capacity) :: rest := by
    rcases h.first with ⟨rfl, -⟩ | hrest
    · exact absurd hwhole.symm (encode_ne_nil m)
    · exact hrest
  constructor
  · intro hread
    apply Decidable.byContradiction
    intro hnone
    obtain ⟨half, hhalf⟩ : ∃ half, min buffer Pipe.capacity = 2 * half + 1 := ⟨buffer / 2, by omega⟩
    rw [hhalf] at hpieces
    subst hpieces
    refine textOf_ne hplain ?_ (by omega) hwhole hread
    exact fun p hp => h.filled hbuffer p (List.mem_cons_of_mem _ hp)
  · rintro (hwide | hwide | hshort)
    · exact heven (.inl hwide)
    · exact heven (.inr hwide)
    · by_cases hwide : Pipe.capacity ≤ buffer
      · exact heven (.inr hwide)
      · rw [Nat.min_eq_left (by omega)] at hpieces
        subst hpieces
        exact textOf_almost hplain hshort hwhole

end

end KeyBridge.Wire
