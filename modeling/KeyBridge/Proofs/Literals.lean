-- SUMMARY: Reading back what was quoted, and the literals of headers.
import KeyBridge.Proofs.Words
import KeyBridge.Proofs.Codec

/-!
# Literals

A literal is read back as the text that was quoted, whatever follows it. Headers are made of few
characters and are short: they are quoted as they stand, and fit on the wire.
-/

namespace KeyBridge

namespace Text

/-! ## Escapes -/

/-- What stands for a character inside a literal. -/
def escaped (c : Char) : List Char :=
  if c = '"' then ['"', '"']
  else if c = '\t' then [backtick, 't']
  else if c = '\n' then [backtick, 'n']
  else if c = '\r' then [backtick, 'r']
  else if c = backtick then [backtick, backtick]
  else [c]

theorem escapeChars_cons (c : Char) (cs : List Char) :
    escapeChars (c :: cs) = escaped c ++ escapeChars cs := by
  simp only [escapeChars, replaceChar_cons, replaceChar_append]
  congr 1
  by_cases hquote : c = '"'
  · subst hquote
    decide
  by_cases htab : c = '\t'
  · subst htab
    decide
  by_cases hfeed : c = '\n'
  · subst hfeed
    decide
  by_cases hreturn : c = '\r'
  · subst hreturn
    decide
  by_cases hbacktick : c = backtick
  · subst hbacktick
    decide
  simp [escaped, hquote, htab, hfeed, hreturn, hbacktick]

/-- The replacements are made one after the other, but come to one escape for each character. -/
theorem escapeChars_eq (cs : List Char) : escapeChars cs = cs.flatMap escaped := by
  induction cs with
  | nil => rfl
  | cons c cs ih => rw [escapeChars_cons, ih, List.flatMap_cons]

/-- The characters that a literal does not hold as they stand. -/
def isEscaped (c : Char) : Bool := ['"', backtick, '\r', '\n', '\t'].contains c

theorem isEscaped_cases {c : Char} (h : isEscaped c = true) :
    c = '"' ∨ c = backtick ∨ c = '\r' ∨ c = '\n' ∨ c = '\t' := by
  simpa [isEscaped] using h

theorem escaped_of_not_isEscaped {c : Char} (h : isEscaped c = false) : escaped c = [c] := by
  simp only [isEscaped, List.contains_eq_mem, List.mem_cons, List.not_mem_nil, or_false,
    decide_eq_false_iff_not, not_or] at h
  obtain ⟨hquote, hbacktick, hreturn, hfeed, htab⟩ := h
  simp [escaped, hquote, hbacktick, hreturn, hfeed, htab]

theorem escapeChars_of_not_isEscaped {cs : List Char} (h : ∀ c ∈ cs, isEscaped c = false) :
    escapeChars cs = cs := by
  rw [escapeChars_eq, List.flatMap_def,
    List.map_congr_left fun c hc => escaped_of_not_isEscaped (h c hc), ← List.flatMap_def]
  exact List.flatMap_singleton' cs

/-- No escape has the end of a line in it. -/
theorem isLine_escaped (c : Char) : IsLine (escaped c) := by
  unfold escaped
  split
  · decide
  split
  · decide
  split
  · decide
  split
  · decide
  split
  · decide
  · rename_i hfeed hreturn _
    intro d hd
    rw [List.mem_singleton.1 hd]
    exact ⟨hfeed, hreturn⟩

theorem isLine_escapeChars (cs : List Char) : IsLine (escapeChars cs) := by
  rw [escapeChars_eq]
  intro d hd
  obtain ⟨c, -, hd⟩ := List.mem_flatMap.1 hd
  exact isLine_escaped c d hd

/-! ## Reading back -/

theorem readInside_escaped (c : Char) (rest : List Char) :
    readInside (escaped c ++ rest) = (readInside rest).map fun r => (c :: r.1, r.2) := by
  unfold escaped
  split
  · rename_i hquote
    subst hquote
    rfl
  split
  · rename_i htab
    subst htab
    rfl
  split
  · rename_i hfeed
    subst hfeed
    rfl
  split
  · rename_i hreturn
    subst hreturn
    rfl
  split
  · rename_i hbacktick
    subst hbacktick
    rfl
  · rename_i hquote _ _ _ hbacktick
    cases rest with
    | nil => simp [readInside, hquote]
    | cons d rest => simp [readInside, hquote, hbacktick]

theorem readInside_quote {rest : List Char} (hrest : rest.head? ≠ some '"') :
    readInside ('"' :: rest) = some ([], rest) := by
  cases rest with
  | nil => rfl
  | cons d rest =>
    have hd : d ≠ '"' := fun h => hrest (congrArg some h)
    simp [readInside, hd]

theorem readInside_escapeChars (cs : List Char) {rest : List Char}
    (hrest : rest.head? ≠ some '"') :
    readInside (escapeChars cs ++ '"' :: rest) = some (cs, rest) := by
  induction cs with
  | nil => exact readInside_quote hrest
  | cons c cs ih =>
    rw [escapeChars_cons, List.append_assoc, readInside_escaped, ih]
    rfl

theorem toList_quote {s literal : String} (h : quote s = some literal) :
    literal.toList = '"' :: (escapeChars (unwrapQuotes s.toList) ++ ['"']) := by
  obtain ⟨inside, hinside, rfl⟩ := Option.map_eq_some_iff.1 h
  unfold escape at hinside
  split at hinside
  · cases hinside
  · rw [← Option.some.inj hinside]
    simp

/-- A literal is read back as the text that was quoted, up to quotes around it. -/
theorem readLiteral_quote {s literal : String} (h : quote s = some literal) {rest : List Char}
    (hrest : rest.head? ≠ some '"') :
    readLiteral (literal.toList ++ rest) = some (unwrapQuotes s.toList, rest) := by
  have hread := readInside_escapeChars (unwrapQuotes s.toList) hrest
  simpa [toList_quote h, readLiteral] using hread

theorem isLine_quote {s literal : String} (h : quote s = some literal) : IsLine literal.toList := by
  simp [toList_quote h, isLine_escapeChars]

/-- Text that is not blank has a literal. -/
theorem exists_quote {s : String} (h : allBlank (unwrapQuotes s.toList) = false) :
    ∃ literal, quote s = some literal := by
  simp [quote, escape, isBlankText, h]

/-- Text that is not blank and has nothing to escape is quoted as it stands. -/
theorem quote_of_not_isEscaped {s : String} (hblank : isBlankText s = false)
    (h : ∀ c ∈ s.toList, isEscaped c = false) : quote s = some ("\"" ++ s ++ "\"") := by
  have hunwrap : unwrapQuotes s.toList = s.toList := by
    cases hs : s.toList with
    | nil => rfl
    | cons c cs =>
      have hc : c ≠ '"' := by
        rintro rfl
        exact Bool.noConfusion (h '"' (hs ▸ List.mem_cons_self))
      simp [unwrapQuotes, hc]
  simp [quote, escape, hunwrap, hblank, escapeChars_of_not_isEscaped h]

/-! ## Plain text -/

/-- Whether a character is visible in ASCII or the space, and no double quote. -/
def isVisible (c : Char) : Bool := 0x20 ≤ c.toNat && c.toNat < 0x7F && c ≠ '"'

/-- A text of visible characters. -/
def IsVisible (cs : List Char) : Prop := ∀ c ∈ cs, isVisible c = true

instance (cs : List Char) : Decidable (IsVisible cs) :=
  decidable_of_iff (cs.all isVisible = true) List.all_eq_true

section

variable {c : Char} {cs ds : List Char}

theorem isVisible_iff : isVisible c = true ↔ 0x20 ≤ c.toNat ∧ c.toNat < 0x7F ∧ c ≠ '"' := by
  simp [isVisible, and_assoc]

@[simp] theorem isVisible_append : IsVisible (cs ++ ds) ↔ IsVisible cs ∧ IsVisible ds :=
  List.forall_mem_append

/-- Visible text is quoted as it stands. -/
theorem IsVisible.unwrapQuotes_eq (h : IsVisible cs) : unwrapQuotes cs = cs := by
  cases cs with
  | nil => rfl
  | cons c cs =>
    have hc := (isVisible_iff.1 (h c List.mem_cons_self)).2.2
    simp [unwrapQuotes, hc]

/-- Visible text has no end of its own on the wire. -/
theorem IsVisible.upToZero_eq {s : String} (h : IsVisible s.toList) : Wire.upToZero s = s := by
  refine Wire.upToZero_eq_self fun hzero => ?_
  have hvisible := h '\x00' hzero
  revert hvisible
  decide

end

end Text

/-! ## Headers -/

theorem Wire.length_bytes_units (cs : List Char) :
    ((units cs).flatMap bytesOfUnit).length ≤ 4 * cs.length := by
  induction cs with
  | nil => exact Nat.le_refl 0
  | cons c cs ih =>
    have hchar : ((unitsOfChar c).flatMap bytesOfUnit).length ≤ 4 := by
      rw [unitsOfChar]
      split <;> simp [bytesOfUnit]
    rw [units_cons, List.flatMap_append, List.length_append, List.length_cons]
    omega

theorem Wire.length_encode (s : String) : (encode s).length ≤ 4 * s.toList.length + 2 := by
  rw [encode_eq, List.length_append]
  exact Nat.add_le_add_right (length_bytes_units _) 2

/-- What every word in a header is like. -/
def isLabelText (most : Nat) (w : String) : Bool :=
  w.toList.all Text.isVisible && w.toList.any (fun c => !Text.isBlank c) && w.toList.length ≤ most

theorem isLabelText_label {k : Key} {l : String} (h : k.label = some l) :
    isLabelText 20 l = true := by
  have hall : Key.all.all (fun k => k.label.all (isLabelText 20)) = true := by decide +kernel
  have hk := List.all_eq_true.1 hall k (Key.mem_all k)
  simpa [h] using hk

theorem isLabelText_modifierSymbol {k : Key} {symbol : String} (h : k.modifierSymbol = some symbol) :
    isLabelText 2 symbol = true := by
  have hall : Key.all.all (fun k => k.modifierSymbol.all (isLabelText 2)) = true := by
    decide +kernel
  have hk := List.all_eq_true.1 hall k (Key.mem_all k)
  simpa [h] using hk

theorem isLabelText_iff {most : Nat} {w : String} : isLabelText most w = true ↔
    Text.IsVisible w.toList ∧ (∃ c ∈ w.toList, Text.isBlank c = false) ∧ w.toList.length ≤ most := by
  simp [isLabelText, Text.IsVisible, and_assoc]

namespace Binding

variable (b : Binding)

/-- There are twelve modifier keys, and none counts twice. -/
theorem length_effectiveModifiers : b.effectiveModifiers.length ≤ 12 := by
  have hsub : b.effectiveModifiers ⊆ Key.all.filter Key.isModifier := by
    intro k hk
    have hmodifier := (List.mem_filter.1 hk).2
    rw [Bool.and_eq_true] at hmodifier
    exact List.mem_filter.2 ⟨Key.mem_all k, hmodifier.1⟩
  exact List.Nodup.length_le_of_subset (List.Pairwise.filter _ b.modifiers.nodup) hsub

theorem modifierText_spec :
    Text.IsVisible b.modifierText.toList ∧ b.modifierText.toList.length ≤ 24 := by
  have hlength := b.length_effectiveModifiers
  have hspec (ks : List Key) :
      Text.IsVisible (String.join (ks.filterMap Key.modifierSymbol)).toList
        ∧ (String.join (ks.filterMap Key.modifierSymbol)).toList.length ≤ 2 * ks.length := by
    rw [String.toList_join]
    induction ks with
    | nil => simp [Text.IsVisible]
    | cons k ks ih =>
      obtain ⟨hvisible, hle⟩ := ih
      rcases hk : k.modifierSymbol with _ | symbol
      · simp only [List.filterMap_cons, hk, List.length_cons]
        exact ⟨hvisible, by omega⟩
      · obtain ⟨hsymbol, -, hshort⟩ := isLabelText_iff.1 (isLabelText_modifierSymbol hk)
        simp only [List.filterMap_cons, hk, List.flatMap_cons, List.length_append,
          List.length_cons]
        exact ⟨Text.isVisible_append.2 ⟨hsymbol, hvisible⟩, by omega⟩
  obtain ⟨hvisible, hle⟩ := hspec b.effectiveModifiers
  exact ⟨hvisible, by rw [modifierText]; omega⟩

theorem upMark_spec (d : Direction) :
    Text.IsVisible (upMark d).toList ∧ (upMark d).toList.length ≤ 3 := by
  cases d <;> decide

end Binding

theorem Trigger.isLabelText_text {t : Trigger} {keys : String} (h : t.text? = some keys) :
    isLabelText 43 keys = true := by
  rw [isLabelText_iff]
  cases t with
  | key k =>
    obtain ⟨hvisible, hblank, hshort⟩ := isLabelText_iff.1 (isLabelText_label h)
    exact ⟨hvisible, hblank, by omega⟩
  | combo left right =>
    rw [text?] at h
    split at h
    · rename_i l r hl hr
      obtain ⟨hvisible, ⟨c, hc, hblank⟩, hshort⟩ := isLabelText_iff.1 (isLabelText_label hl)
      obtain ⟨hvisible', -, hshort'⟩ := isLabelText_iff.1 (isLabelText_label hr)
      have hand : Text.IsVisible " & ".toList := by decide
      rw [← Option.some.inj h]
      simp only [String.toList_append, Text.isVisible_append, List.length_append]
      refine ⟨⟨⟨hvisible, hand⟩, hvisible'⟩, ⟨c, by simp [hc], hblank⟩, ?_⟩
      have hlength : " & ".toList.length = 3 := rfl
      omega
    · cases h

/-- A header is visible, not blank, and short. -/
theorem Binding.isLabelText_header {b : Binding} {header : String} (h : b.header? = some header) :
    isLabelText 70 header = true := by
  obtain ⟨keys, hkeys, rfl⟩ := Option.map_eq_some_iff.1 h
  obtain ⟨hvisible, ⟨c, hc, hblank⟩, hshort⟩ := isLabelText_iff.1 (Trigger.isLabelText_text hkeys)
  obtain ⟨hmodifiers, hfew⟩ := b.modifierText_spec
  obtain ⟨hmark, hbrief⟩ := upMark_spec b.direction
  rw [isLabelText_iff]
  simp only [String.toList_append, Text.isVisible_append, List.length_append]
  exact ⟨⟨⟨hmodifiers, hvisible⟩, hmark⟩, ⟨c, by simp [hc], hblank⟩, by omega⟩

section

variable {b : Binding} {header : String} (h : b.header? = some header)
include h

/-- The literal of a header is read back as the header. -/
theorem Binding.exists_quote_header : ∃ literal, Text.quote header = some literal ∧
    ∀ rest : List Char, rest.head? ≠ some '"' →
      Text.readLiteral (literal.toList ++ rest) = some (header.toList, rest) := by
  obtain ⟨hvisible, ⟨c, hc, hblank⟩, -⟩ := isLabelText_iff.1 (isLabelText_header h)
  have hquoted := hvisible.unwrapQuotes_eq
  have hnot : Text.allBlank (Text.unwrapQuotes header.toList) = false := by
    rw [hquoted, Text.allBlank, List.all_eq_false]
    exact ⟨c, hc, by simp [hblank]⟩
  obtain ⟨literal, hliteral⟩ := Text.exists_quote hnot
  refine ⟨literal, hliteral, fun rest hrest => ?_⟩
  rw [Text.readLiteral_quote hliteral hrest, hquoted]

theorem Binding.upToZero_header : Wire.upToZero header = header :=
  (isLabelText_iff.1 (isLabelText_header h)).1.upToZero_eq

theorem Binding.length_encode_header : (Wire.encode header).length ≤ 282 := by
  have hshort := (isLabelText_iff.1 (isLabelText_header h)).2.2
  have hlength := Wire.length_encode header
  omega

end

end KeyBridge
