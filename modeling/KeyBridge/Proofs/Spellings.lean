-- SUMMARY: A key is read from its spellings and from nothing else, and no two keys share one.
import KeyBridge.Key.Spelling
import KeyBridge.Proofs.Replays
import Mathlib

/-!
# Spellings

Each of three tables gives a key only for a word of its own. No word belongs to two keys
(`Spelled.unique`), so the order in which the tables are searched makes no difference, and a key is
read exactly from its words, in any case and with any blank characters around them
(`ofSpelling?_reads`).
-/

namespace KeyBridge

/-! ## Case -/

theorem lowered_lowered (s : String) : lowered (lowered s) = lowered s := by
  simp [lowered, String.map_map, Function.comp_def]

/-- Texts of which each is the other with some letters of ASCII made capitals or small. -/
def Recased (s t : String) : Prop :=
  List.Forall₂ (fun c d => d = c ∨ d = c.toLower ∨ d = c.toUpper) s.toList t.toList

theorem Recased.lowered_eq {s t : String} (h : Recased s t) : lowered t = lowered s := by
  rw [← String.toList_inj, lowered, lowered, String.toList_map, String.toList_map]
  unfold Recased at h
  generalize s.toList = cs at h ⊢
  generalize t.toList = ds at h ⊢
  induction h with
  | nil => rfl
  | @cons c d cs ds hchar hrest ih =>
    have hsame : d.toLower = c.toLower := by
      rcases hchar with rfl | rfl | rfl
      · rfl
      · exact c.toLower_toLower_eq_toLower
      · exact c.toLower_toUpper_eq_toLower
    rw [List.map_cons, List.map_cons, hsame, ih]

/-! ## Blank characters -/

namespace Text

theorem isBlank_toLower (c : Char) : isBlank c.toLower = isBlank c := by
  by_cases hcapital : c.isUpper
  · -- no letter is blank
    have hletters : ∀ n < 91, 65 ≤ n →
        inRanges (n + 32) blankRanges = inRanges n blankRanges := by decide
    have hrange : 65 ≤ c.toNat ∧ c.toNat ≤ 90 := by
      simpa [Char.isUpper, UInt32.le_iff_toNat_le] using hcapital
    have hvalid : (c.toNat + 32).isValidChar := .inl (by omega)
    rw [Char.toLower_eq_of_isUpper hcapital, isBlank, isBlank, Char.toNat_ofNat, if_pos hvalid]
    exact hletters _ (by omega) hrange.1
  · rw [Char.toLower_eq_of_not_isUpper hcapital]

theorem trimBoth_map_toLower (cs : List Char) :
    trimBoth (cs.map Char.toLower) = (trimBoth cs).map Char.toLower := by
  have hblank : isBlank ∘ Char.toLower = isBlank := funext isBlank_toLower
  rw [trimBoth, trimBoth, trimEnd, trimEnd, trimStart, trimStart, List.dropWhile_map, hblank,
    ← List.map_reverse, List.dropWhile_map, hblank, List.map_reverse]

theorem lowered_trim (s : String) : lowered (trim s) = trim (lowered s) := by
  rw [← String.toList_inj, lowered, String.toList_map, toList_trim, toList_trim, lowered,
    String.toList_map, trimBoth_map_toLower]

end Text

namespace Key

/-! ## Words -/

/-- Whether a word in lower case stands for a key: it is its name, its label or its alias. -/
def Spelled (k : Key) (word : String) : Prop :=
  word = lowered k.name ∨ (∃ label, k.label = some label ∧ word = lowered label)
    ∨ k.aliasWord = some word

/-- The name, the label and the alias of a key, as they are written. -/
def writtenWords (k : Key) : List String := k.name :: (k.label.toList ++ k.aliasWord.toList)

theorem lowered_aliasWord {k : Key} {word : String} (h : k.aliasWord = some word) :
    lowered word = word := by
  have hall : ∀ k ∈ all, ∀ word ∈ k.aliasWord, lowered word = word := by decide +kernel
  exact hall k (mem_all k) word h

theorem Spelled.exists_written {k : Key} {word : String} (h : k.Spelled word) :
    ∃ written ∈ writtenWords k, word = lowered written := by
  rcases h with rfl | ⟨label, hlabel, rfl⟩ | halias
  · exact ⟨k.name, by simp [writtenWords], rfl⟩
  · exact ⟨label, by simp [writtenWords, hlabel], rfl⟩
  · exact ⟨word, by simp [writtenWords, halias], (lowered_aliasWord halias).symm⟩

/-! ## No word belongs to two keys -/

/-- A number for a word, the same in any case. Words of different keys have different numbers. -/
def signature (word : String) : Nat :=
  (word.toList.foldl (fun n c => 128 * n + c.toLower.toNat) 0) % 2875

theorem signature_lowered (word : String) : signature (lowered word) = signature word := by
  simp [signature, lowered, List.foldl_map]

/-- The number whose bits are set at the numbers of a list. -/
def bits : List Nat → Nat
  | [] => 0
  | n :: ns => 1 <<< n ||| bits ns

theorem testBit_bits (ns : List Nat) (n : Nat) : (bits ns).testBit n = true ↔ n ∈ ns := by
  induction ns with
  | nil => simp [bits]
  | cons m ns ih =>
    rw [bits, Nat.testBit_or, Bool.or_eq_true, ih, Nat.shiftLeft_eq, Nat.one_mul,
      Nat.testBit_two_pow, decide_eq_true_eq, List.mem_cons, eq_comm]

/-- Whether no number of a list is in a list before it, or has its bit set from the start. -/
def separate (seen : Nat) : List (List Nat) → Bool
  | [] => true
  | ns :: rest => (ns.all fun n => !seen.testBit n) && separate (seen ||| bits ns) rest

theorem separate_spec {seen : Nat} {lists : List (List Nat)} (h : separate seen lists = true) :
    (∀ ns ∈ lists, ∀ n ∈ ns, seen.testBit n = false)
      ∧ lists.Pairwise fun ns ns' => ∀ n ∈ ns, n ∉ ns' := by
  induction lists generalizing seen with
  | nil => exact ⟨nofun, .nil⟩
  | cons ns rest ih =>
    rw [separate, Bool.and_eq_true] at h
    obtain ⟨hfresh, hapart⟩ := ih h.2
    simp only [Nat.testBit_or, Bool.or_eq_false_iff] at hfresh
    refine ⟨?_, .cons ?_ hapart⟩
    · rintro ns' (_ | ⟨_, hns'⟩) n hn
      · simpa using List.all_eq_true.1 h.1 n hn
      · exact (hfresh ns' hns' n hn).1
    · intro ns' hns' n hn hn'
      have hbit := (hfresh ns' hns' n hn').2
      rw [(testBit_bits ns n).2 hn] at hbit
      cases hbit

/-- No word belongs to two keys. -/
theorem Spelled.unique {k k' : Key} {word : String} (h : k.Spelled word) (h' : k'.Spelled word) :
    k = k' := by
  have hseparate : separate 0 (all.map fun k => (writtenWords k).map signature) = true := by
    decide +kernel
  have hapart : all.Pairwise fun k k' => ∀ word ∈ writtenWords k, ∀ word' ∈ writtenWords k',
      signature word ≠ signature word' := by
    refine (List.pairwise_map.1 (separate_spec hseparate).2).imp ?_
    intro k k' hk word hword word' hword' hsame
    exact hk _ (List.mem_map_of_mem hword) (List.mem_map.2 ⟨word', hword', hsame.symm⟩)
  obtain ⟨written, hwritten, rfl⟩ := h.exists_written
  obtain ⟨written', hwritten', hlowered⟩ := h'.exists_written
  have hsame : signature written = signature written' := by
    rw [← signature_lowered, hlowered, signature_lowered]
  obtain ⟨i, hi, rfl⟩ := List.getElem_of_mem (mem_all k)
  obtain ⟨j, hj, rfl⟩ := List.getElem_of_mem (mem_all k')
  rw [List.pairwise_iff_getElem] at hapart
  rcases Nat.lt_trichotomy i j with hlt | rfl | hgt
  · exact absurd hsame (hapart i j hi hj hlt _ hwritten _ hwritten')
  · rfl
  · exact absurd hsame.symm (hapart j i hj hi hgt _ hwritten' _ hwritten)

/-! ## Reading -/

section

variable {s : String} {k : Key}

theorem findByWord_eq_some {word : Key → Option String} (h : findByWord word s = some k) :
    ∃ w, word k = some w ∧ lowered s = lowered w := by
  have hsame := List.find?_some h
  rw [beq_iff_eq, Option.map_eq_some_iff] at hsame
  obtain ⟨w, hw, heq⟩ := hsame
  exact ⟨w, hw, heq.symm⟩

theorem exists_findByWord {word : Key → Option String} {w : String} (hw : word k = some w)
    (h : lowered s = lowered w) : ∃ k', findByWord word s = some k' := by
  refine Option.isSome_iff_exists.1 (List.find?_isSome.2 ⟨k, mem_all k, ?_⟩)
  rw [hw, h]
  exact beq_self_eq_true _

/-- The tables of words, each with the way to find a key in it. -/
def tables : List (String → Option Key) := [ofName?, ofLabel?, ofAlias?]

theorem spelled_of_table {read : String → Option Key} (hread : read ∈ tables)
    (h : read s = some k) : k.Spelled (lowered s) := by
  simp only [tables, List.mem_cons, List.not_mem_nil, or_false] at hread
  rcases hread with rfl | rfl | rfl
  · obtain ⟨w, hw, hsame⟩ := findByWord_eq_some h
    cases hw
    exact .inl hsame
  · exact .inr (.inl (findByWord_eq_some h))
  · obtain ⟨w, hw, hsame⟩ := findByWord_eq_some h
    rw [lowered_aliasWord hw] at hsame
    exact .inr (.inr (hsame ▸ hw))

theorem exists_table (h : k.Spelled (lowered s)) : ∃ read ∈ tables, ∃ k', read s = some k' := by
  rcases h with hname | ⟨label, hlabel, hsame⟩ | halias
  · exact ⟨ofName?, by simp [tables], exists_findByWord rfl hname⟩
  · exact ⟨ofLabel?, by simp [tables], exists_findByWord hlabel hsame⟩
  · exact ⟨ofAlias?, by simp [tables], exists_findByWord halias (lowered_lowered s).symm⟩

/-- In whatever order the tables are searched, a key is found exactly by its words. -/
theorem findSome?_tables {order : List (String → Option Key)} (horder : order.Perm tables) :
    (order.findSome? fun read => read s) = some k ↔ k.Spelled (lowered s) := by
  have hsound {k : Key} (h : (order.findSome? fun read => read s) = some k) :
      k.Spelled (lowered s) := by
    obtain ⟨read, hread, hfound⟩ := List.exists_of_findSome?_eq_some h
    exact spelled_of_table (horder.mem_iff.1 hread) hfound
  refine ⟨hsound, fun hspelled => ?_⟩
  obtain ⟨read, hread, k', hfound⟩ := exists_table hspelled
  obtain ⟨k'', hfirst⟩ : ∃ k'', (order.findSome? fun read => read s) = some k'' := by
    refine Option.isSome_iff_exists.1 (List.findSome?_isSome_iff.2 ?_)
    exact ⟨read, horder.mem_iff.2 hread, by rw [hfound]; rfl⟩
  rw [hfirst, (hsound hfirst).unique hspelled]

theorem ofSpelling?_eq_findSome? (s : String) :
    ofSpelling? s = tables.findSome? fun read => read (Text.trim s) := by
  simp only [tables, List.findSome?_cons, List.findSome?_nil, ofSpelling?]
  cases ofName? (Text.trim s) <;> cases ofLabel? (Text.trim s) <;>
    cases ofAlias? (Text.trim s) <;> rfl

theorem ofSpelling?_eq_some_iff :
    ofSpelling? s = some k ↔ k.Spelled (lowered (Text.trim s)) := by
  rw [ofSpelling?_eq_findSome?]
  exact findSome?_tables (.refl _)

theorem spelled_spelling (k : Key) : k.Spelled (lowered (spelling k)) := by
  rw [spelling]
  cases hlabel : k.label with
  | none => exact .inl (lowered_lowered _)
  | some label => exact .inr (.inl ⟨label, hlabel, rfl⟩)

/-- A spelling is one word, so there is nothing to trim. -/
theorem trim_spelling (k : Key) : Text.trim (spelling k) = spelling k := by
  have hlabels : ∀ k ∈ all, ∀ label ∈ k.label, label.toList.all Text.isWordChar = true := by
    decide +kernel
  have hblank {label : String} (hlabel : k.label = some label) :
      ∀ c ∈ label.toList, Text.isBlank c = false := fun c hc =>
    Text.isBlank_of_isWordChar (List.all_eq_true.1 (hlabels k (mem_all k) label hlabel) c hc)
  cases hlabel : k.label with
  | none =>
    rw [(label_eq_none_iff k).1 hlabel]
    decide +kernel
  | some label =>
    rw [spelling, hlabel, ← String.toList_inj, Text.toList_trim]
    exact Text.trimBoth_eq (fun c hc => hblank hlabel c (List.mem_of_head? hc))
      fun c hc => hblank hlabel c (List.mem_of_getLast? hc)

end

/-- A text in disguise: with letters of ASCII made capitals or small, and with blank characters put
around it. -/
def Disguised (s t : String) : Prop :=
  ∃ core before after, Recased s core ∧ Text.allBlank before = true ∧ Text.allBlank after = true
    ∧ t.toList = before ++ core.toList ++ after

theorem Disguised.lowered_trim {s t : String} (h : Disguised s t) :
    lowered (Text.trim t) = lowered (Text.trim s) := by
  obtain ⟨core, before, after, hcase, hbefore, hafter, ht⟩ := h
  have htrim : Text.trim t = Text.trim core := by
    rw [← String.toList_inj, Text.toList_trim, Text.toList_trim, ht,
      Text.trimBoth_surrounded hbefore hafter]
  rw [htrim, Text.lowered_trim, Text.lowered_trim, hcase.lowered_eq]

/-- A text is read as a key exactly if, without blank characters around it and in lower case, it is
a word of that key, and as no key if it is no word of any. No word belongs to two keys, and the
tables may be searched in any order. So a text is read as before in any disguise, and what is
written for a key is read as that key. -/
theorem ofSpelling?_reads (s : String) :
    (∀ k, ofSpelling? s = some k ↔ k.Spelled (lowered (Text.trim s)))
    ∧ (ofSpelling? s = none ↔ ∀ k : Key, ¬k.Spelled (lowered (Text.trim s)))
    ∧ (∀ (k k' : Key) word, k.Spelled word → k'.Spelled word → k = k')
    ∧ (∀ order : List (String → Option Key), order.Perm [ofName?, ofLabel?, ofAlias?] →
      (order.findSome? fun read => read (Text.trim s)) = ofSpelling? s)
    ∧ (∀ t, Disguised s t → ofSpelling? t = ofSpelling? s)
    ∧ ∀ k t, Disguised (spelling k) t → ofSpelling? t = some k := by
  have hdisguise {s t : String} (h : Disguised s t) : ofSpelling? t = ofSpelling? s :=
    Option.ext fun k => by rw [ofSpelling?_eq_some_iff, ofSpelling?_eq_some_iff, h.lowered_trim]
  refine ⟨fun k => ofSpelling?_eq_some_iff, ?_, fun _ _ _ => Spelled.unique, fun order horder => ?_,
    fun t => hdisguise, fun k t ht => ?_⟩
  · rw [Option.eq_none_iff_forall_ne_some]
    exact forall_congr' fun k => not_congr ofSpelling?_eq_some_iff
  · refine Option.ext fun k => ?_
    rw [findSome?_tables horder, ofSpelling?_eq_some_iff]
  · rw [hdisguise ht, ofSpelling?_eq_some_iff, trim_spelling]
    exact spelled_spelling k

end Key

end KeyBridge
