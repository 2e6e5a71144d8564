-- SUMMARY: Literals are read back as what was quoted; which of them quoting leaves as they are.
import KeyBridge.Proofs.Literals

/-!
# Quoting

A text that stands between double quotes is quoted without them. So to quote a literal once more is
to escape its inside once more (`unwrapQuotes_quote`). That changes nothing if nothing in it needs an
escape. Otherwise every escape brings in a character that needs one in its turn, and the text grows
at each step.
-/

namespace KeyBridge.Text

variable {s inner literal : String} {c : Char} {cs : List Char}

/-! ## What stands between quotes -/

/-- What a text holds: what stands between the double quotes at its ends, or all of it if it has not
both. -/
def Encloses (s inner : String) : Prop :=
  s = "\"" ++ inner ++ "\"" ∨ (inner = s ∧ ∀ t, s ≠ "\"" ++ t ++ "\"")

theorem toList_between_quotes (t : String) :
    ("\"" ++ t ++ "\"").toList = '"' :: (t.toList ++ ['"']) := by
  simp

theorem unwrapQuotes_quoted (cs : List Char) : unwrapQuotes ('"' :: (cs ++ ['"'])) = cs := by
  simp [unwrapQuotes]

theorem unwrapQuotes_bare (h : ∀ inside, cs ≠ '"' :: (inside ++ ['"'])) : unwrapQuotes cs = cs := by
  cases cs with
  | nil => rfl
  | cons c cs =>
    refine if_neg ?_
    rintro ⟨rfl, hlast⟩
    obtain ⟨inside, rfl⟩ := List.getLast?_eq_some_iff.1 hlast
    exact h inside rfl

theorem encloses_iff : Encloses s inner ↔ inner.toList = unwrapQuotes s.toList := by
  by_cases hquoted : ∃ t, s = "\"" ++ t ++ "\""
  · obtain ⟨t, rfl⟩ := hquoted
    rw [toList_between_quotes, unwrapQuotes_quoted, String.toList_inj]
    constructor
    · rintro (hsame | ⟨-, hbare⟩)
      · have hlists := congrArg String.toList hsame
        rw [toList_between_quotes, toList_between_quotes] at hlists
        exact String.toList_inj.1 (List.append_cancel_right (List.cons.inj hlists).2).symm
      · exact absurd rfl (hbare t)
    · rintro rfl
      exact .inl rfl
  · have hbare : ∀ t, s ≠ "\"" ++ t ++ "\"" := fun t ht => hquoted ⟨t, ht⟩
    have hunwrap : unwrapQuotes s.toList = s.toList := by
      refine unwrapQuotes_bare fun inside hinside => hbare (String.ofList inside) ?_
      rw [← String.toList_inj, toList_between_quotes, hinside, String.toList_ofList]
    rw [hunwrap, String.toList_inj]
    constructor
    · rintro (hwrapped | ⟨hsame, -⟩)
      · exact absurd hwrapped (hbare inner)
      · exact hsame
    · intro hsame
      exact .inr ⟨hsame, hbare⟩

/-! ## Reading back -/

theorem quote_eq_none_iff : quote s = none ↔ allBlank (unwrapQuotes s.toList) = true := by
  simp [quote, escape, isBlankText]

theorem escapeChars_injective {ds : List Char} (h : escapeChars cs = escapeChars ds) : cs = ds := by
  have hread : readInside (escapeChars cs ++ ['"']) = some (cs, []) :=
    readInside_escapeChars cs (by simp)
  rw [h, readInside_escapeChars ds (by simp)] at hread
  exact congrArg Prod.fst (Option.some.inj hread).symm

theorem escape_eq_some (h : escape s = some inner) : inner.toList = escapeChars s.toList := by
  unfold escape at h
  split at h
  · cases h
  · rw [← Option.some.inj h, String.toList_ofList]

theorem escape_inj {t : String} (hs : escape s ≠ none) (h : escape t = escape s) : t = s := by
  obtain ⟨inside, hinside⟩ := Option.ne_none_iff_exists'.1 hs
  have hescape : escapeChars t.toList = escapeChars s.toList := by
    rw [← escape_eq_some hinside, ← escape_eq_some (h.trans hinside)]
  exact String.toList_inj.1 (escapeChars_injective hescape)

/-- No escape has a tab in it. -/
theorem tab_not_mem_escapeChars (cs : List Char) : '\t' ∉ escapeChars cs := by
  rw [escapeChars_eq]
  intro hmem
  obtain ⟨c, -, hc⟩ := List.mem_flatMap.1 hmem
  by_cases hescaped : isEscaped c = true
  · rcases isEscaped_cases hescaped with rfl | rfl | rfl | rfl | rfl <;> revert hc <;> decide
  · rw [escaped_of_not_isEscaped (by simpa using hescaped), List.mem_singleton] at hc
    exact hescaped (hc ▸ rfl)

/-- Every text encloses one text, itself or what stands between its quotes. It has no literal exactly
if that is blank. Otherwise the literal is read back as that text, closes at its last character, and
has no raw tab or end of a line in it. The replacements that write it come to one substitution for
each character, and different texts are written in different ways. -/
theorem quote_reads_back (s : String) :
    (∃ inner, (∀ t, Encloses s t ↔ t = inner)
      ∧ (quote s = none ↔ ∀ c ∈ inner.toList, isBlank c = true)
      ∧ ∀ literal, quote s = some literal →
        readLiteral literal.toList = some (inner.toList, [])
        ∧ (∀ rest, rest.head? ≠ some '"' →
          readLiteral (literal.toList ++ rest) = some (inner.toList, rest))
        ∧ ∀ c ∈ literal.toList, c ∉ ['\r', '\n', '\t'])
    ∧ escapeChars s.toList = s.toList.flatMap escaped
    ∧ (escape s ≠ none → ∀ t, escape t = escape s → t = s) := by
  refine ⟨⟨String.ofList (unwrapQuotes s.toList), fun t => ?_, ?_, fun literal hliteral => ?_⟩,
    escapeChars_eq _, fun hs t => escape_inj hs⟩
  · rw [encloses_iff, ← String.toList_inj, String.toList_ofList]
  · rw [quote_eq_none_iff, String.toList_ofList]
    exact List.all_eq_true
  · rw [String.toList_ofList]
    have hread {rest : List Char} (hrest : rest.head? ≠ some '"') := readLiteral_quote hliteral hrest
    have hwhole : readLiteral (literal.toList ++ []) = some (unwrapQuotes s.toList, []) :=
      hread (by simp)
    rw [List.append_nil] at hwhole
    refine ⟨hwhole, fun rest => hread, fun c hc => ?_⟩
    have hline := isLine_quote hliteral c hc
    have htab : c ≠ '\t' := by
      rintro rfl
      rw [toList_quote hliteral] at hc
      simp [tab_not_mem_escapeChars] at hc
    simp [hline.1, hline.2, htab]

/-! ## Quoting again -/

/-- What stands between the quotes of a literal is the escaped text. -/
theorem unwrapQuotes_quote (h : quote s = some literal) :
    unwrapQuotes literal.toList = escapeChars (unwrapQuotes s.toList) := by
  rw [toList_quote h, unwrapQuotes_quoted]

/-- An escape brings in a character that is not blank and needs an escape in its turn. -/
theorem exists_isEscaped_escaped (h : isEscaped c = true) :
    ∃ d ∈ escaped c, isEscaped d = true ∧ isBlank d = false := by
  have hquote : isEscaped '"' = true ∧ isBlank '"' = false := by decide
  have hbacktick : isEscaped backtick = true ∧ isBlank backtick = false := by decide
  rcases isEscaped_cases h with rfl | rfl | rfl | rfl | rfl
  · exact ⟨'"', .head _, hquote⟩
  · exact ⟨backtick, .head _, hbacktick⟩
  · exact ⟨backtick, .head _, hbacktick⟩
  · exact ⟨backtick, .head _, hbacktick⟩
  · exact ⟨backtick, .head _, hbacktick⟩

theorem any_isEscaped_escapeChars (h : cs.any isEscaped = true) :
    (escapeChars cs).any isEscaped = true := by
  obtain ⟨c, hc, hescaped⟩ := List.any_eq_true.1 h
  obtain ⟨d, hd, hagain, -⟩ := exists_isEscaped_escaped hescaped
  rw [escapeChars_eq]
  exact List.any_eq_true.2 ⟨d, List.mem_flatMap.2 ⟨c, hc, hd⟩, hagain⟩

theorem allBlank_escapeChars (h : allBlank cs = false) : allBlank (escapeChars cs) = false := by
  obtain ⟨c, hc, hblank⟩ := List.all_eq_false.1 h
  rw [escapeChars_eq, allBlank, List.all_eq_false]
  by_cases hescaped : isEscaped c = true
  · obtain ⟨d, hd, -, hvisible⟩ := exists_isEscaped_escaped hescaped
    exact ⟨d, List.mem_flatMap.2 ⟨c, hc, hd⟩, by simp [hvisible]⟩
  · have hsame := escaped_of_not_isEscaped (by simpa using hescaped)
    exact ⟨c, List.mem_flatMap.2 ⟨c, hc, by simp [hsame]⟩, hblank⟩

theorem quote_quote (h : quote s = some literal) : ∃ again, quote literal = some again := by
  refine exists_quote ?_
  rw [unwrapQuotes_quote h]
  refine allBlank_escapeChars ?_
  have hsome : quote s ≠ none := by simp [h]
  simpa [quote_eq_none_iff] using hsome

/-! ## Growth -/

/-- An escape is two characters of ASCII for one. -/
theorem escaped_ascii (h : isEscaped c = true) : c.toNat < 0x80
    ∧ ∃ d e, escaped c = [d, e] ∧ d.toNat < 0x80 ∧ e.toNat < 0x80 := by
  rcases isEscaped_cases h with rfl | rfl | rfl | rfl | rfl
  · exact ⟨by decide, '"', '"', rfl, by decide, by decide⟩
  · exact ⟨by decide, backtick, backtick, rfl, by decide, by decide⟩
  · exact ⟨by decide, backtick, 'r', rfl, by decide, by decide⟩
  · exact ⟨by decide, backtick, 'n', rfl, by decide, by decide⟩
  · exact ⟨by decide, backtick, 't', rfl, by decide, by decide⟩

/-- What a text weighs if each character has some weight. -/
def weigh (w : Char → Nat) : List Char → Nat
  | [] => 0
  | c :: cs => w c + weigh w cs

/-- Weights in which every character of ASCII counts one. -/
def CountsAscii (w : Char → Nat) : Prop := ∀ c, c.toNat < 0x80 → w c = 1

section

variable {w : Char → Nat}

@[simp] theorem weigh_nil : weigh w [] = 0 := rfl

@[simp] theorem weigh_cons : weigh w (c :: cs) = w c + weigh w cs := rfl

@[simp] theorem weigh_append (ds : List Char) :
    weigh w (cs ++ ds) = weigh w cs + weigh w ds := by
  induction cs with
  | nil => exact (Nat.zero_add _).symm
  | cons c cs ih => simp [ih, Nat.add_assoc]

theorem weigh_escaped (hw : CountsAscii w) (c : Char) :
    weigh w (escaped c) = w c + if isEscaped c then 1 else 0 := by
  by_cases hescaped : isEscaped c = true
  · obtain ⟨hc, hpair⟩ := escaped_ascii hescaped
    rw [if_pos hescaped, hw c hc]
    obtain ⟨d, e, hescape, hd, he⟩ := hpair
    rw [hescape, weigh_cons, weigh_cons, weigh_nil, hw d hd, hw e he]
  · simp [escaped_of_not_isEscaped (by simpa using hescaped), hescaped]

/-- Each escape makes a text longer by one. -/
theorem weigh_escapeChars (hw : CountsAscii w) (cs : List Char) :
    weigh w (escapeChars cs) = weigh w cs + cs.countP isEscaped := by
  induction cs with
  | nil => rfl
  | cons c cs ih =>
    rw [escapeChars_cons, weigh_append, weigh_escaped hw, ih, weigh_cons, List.countP_cons]
    omega

theorem weigh_le_unwrapQuotes (hw : CountsAscii w) (cs : List Char) :
    weigh w cs ≤ weigh w (unwrapQuotes cs) + 2 := by
  have hquote : w '"' = 1 := hw _ (by decide)
  by_cases hquoted : ∃ inside, cs = '"' :: (inside ++ ['"'])
  · obtain ⟨inside, rfl⟩ := hquoted
    rw [unwrapQuotes_quoted, weigh_cons, weigh_append, weigh_cons, weigh_nil, hquote]
    omega
  · rw [unwrapQuotes_bare fun inside h => hquoted ⟨inside, h⟩]
    omega

theorem weigh_quote (hw : CountsAscii w) (h : quote s = some literal) :
    weigh w s.toList + (unwrapQuotes s.toList).countP isEscaped ≤ weigh w literal.toList := by
  have hquote : w '"' = 1 := hw _ (by decide)
  have hshort := weigh_le_unwrapQuotes hw s.toList
  rw [toList_quote h, weigh_cons, weigh_append, weigh_escapeChars hw, weigh_cons,
    weigh_nil, hquote]
  omega

end

theorem weigh_one (s : String) : weigh (fun _ => 1) s.toList = s.length := by
  rw [← String.length_toList]
  induction s.toList with
  | nil => rfl
  | cons c cs ih => rw [weigh_cons, ih, List.length_cons, Nat.add_comm]

theorem weigh_utf8Size (s : String) : weigh Char.utf8Size s.toList = s.utf8ByteSize := by
  rw [← String.size_toByteArray, ← String.utf8Encode_toList, List.utf8Encode,
    List.size_toByteArray]
  induction s.toList with
  | nil => rfl
  | cons c cs ih =>
    rw [weigh_cons, ih, List.flatMap_cons, List.length_append, String.length_utf8EncodeChar]

theorem countsAscii_utf8Size : CountsAscii Char.utf8Size := by
  intro c hc
  have hone : c.val ≤ 0x7F := UInt32.le_iff_toNat_le.2 (Nat.le_of_lt_succ hc)
  exact if_pos hone

/-- A text with a literal in which something is escaped. -/
structure NeedsEscape (s : String) : Prop where
  quoted : quote s ≠ none
  escaped : (unwrapQuotes s.toList).any isEscaped = true

/-- A text that needs an escape has a longer literal, which needs one too. -/
theorem NeedsEscape.grows (h : NeedsEscape s) : ∃ literal, quote s = some literal
    ∧ NeedsEscape literal ∧ s.length < literal.length
    ∧ s.utf8ByteSize < literal.utf8ByteSize := by
  obtain ⟨literal, hliteral⟩ := Option.ne_none_iff_exists'.1 h.quoted
  obtain ⟨again, hagain⟩ := quote_quote hliteral
  have hcount : 0 < (unwrapQuotes s.toList).countP isEscaped :=
    List.countP_pos_iff.2 (List.any_eq_true.1 h.escaped)
  have hlength := weigh_quote (w := fun _ => 1) (fun _ _ => rfl) hliteral
  have hbytes := weigh_quote countsAscii_utf8Size hliteral
  rw [weigh_one, weigh_one] at hlength
  rw [weigh_utf8Size, weigh_utf8Size] at hbytes
  refine ⟨literal, hliteral, ⟨by simp [hagain], ?_⟩, by omega, by omega⟩
  rw [unwrapQuotes_quote hliteral]
  exact any_isEscaped_escapeChars h.escaped

/-- A text that was quoted so many times. -/
def requote (s : String) : Nat → Option String
  | 0 => some s
  | k + 1 => (requote s k).bind quote

theorem NeedsEscape.requote (h : NeedsEscape s) (k : Nat) :
    ∃ t, requote s k = some t ∧ NeedsEscape t := by
  induction k with
  | zero => exact ⟨s, rfl, h⟩
  | succ k ih =>
    obtain ⟨t, ht, hneeds⟩ := ih
    obtain ⟨literal, hliteral, hagain, -⟩ := hneeds.grows
    exact ⟨literal, by simp [Text.requote, ht, hliteral], hagain⟩

/-- A literal in which nothing was escaped is its own literal. -/
theorem quote_eq_self (h : quote s = some literal)
    (hplain : ∀ c ∈ unwrapQuotes s.toList, isEscaped c = false) :
    quote literal = some literal := by
  have hsame := unwrapQuotes_quote h
  rw [escapeChars_of_not_isEscaped hplain] at hsame
  rw [← h, quote, quote, hsame]

/-- A text that is quoted encloses a text. Its literal is its own literal exactly if that text has
no quote, backtick, tab or end of a line in it. If it has one, the literal has another literal, and
to quote the text again and again makes it longer at each step, in characters and in bytes. -/
theorem quote_fixed_iff (hinner : Encloses s inner) (h : quote s = some literal) :
    (quote literal = some literal ↔ ∀ c ∈ inner.toList, c ∉ ['"', '\x60', '\r', '\n', '\t'])
    ∧ ((∃ c ∈ inner.toList, c ∈ ['"', '\x60', '\r', '\n', '\t']) →
      (∃ again, quote literal = some again ∧ again ≠ literal)
      ∧ ∀ k, ∃ before after, requote s k = some before ∧ requote s (k + 1) = some after
        ∧ before.length < after.length ∧ before.utf8ByteSize < after.utf8ByteSize) := by
  rw [encloses_iff.1 hinner]
  have hneeds (hspecial : ∃ c ∈ unwrapQuotes s.toList, c ∈ ['"', '\x60', '\r', '\n', '\t']) :
      NeedsEscape s := by
    obtain ⟨c, hc, hmem⟩ := hspecial
    exact ⟨by simp [h], List.any_eq_true.2 ⟨c, hc, List.contains_iff_mem.2 hmem⟩⟩
  have hother (hneeds : NeedsEscape s) : ∃ again, quote literal = some again ∧ again ≠ literal := by
    obtain ⟨literal', hliteral, hagain, -⟩ := hneeds.grows
    cases h.symm.trans hliteral
    obtain ⟨again, hquote, -, hlonger, -⟩ := hagain.grows
    exact ⟨again, hquote, fun heq => absurd hlonger (heq ▸ Nat.lt_irrefl _)⟩
  refine ⟨⟨fun hfixed c hc hmem => ?_, fun hplain => quote_eq_self h fun c hc => ?_⟩,
    fun hspecial => ⟨hother (hneeds hspecial), fun k => ?_⟩⟩
  · obtain ⟨again, hagain, hne⟩ := hother (hneeds ⟨c, hc, hmem⟩)
    exact hne (Option.some.inj (hagain.symm.trans hfixed))
  · exact Bool.eq_false_iff.2 fun hescaped => hplain c hc (List.contains_iff_mem.1 hescaped)
  · obtain ⟨before, hbefore, hgrowing⟩ := (hneeds hspecial).requote k
    obtain ⟨after, hafter, -, hlength, hbytes⟩ := hgrowing.grows
    exact ⟨before, after, hbefore, by simp [requote, hbefore, hafter], hlength, hbytes⟩

/-- A question about a quotation gets longer with each quoting. -/
theorem question_grows :
    Encloses "\"who said \"hush\"\"" "who said \"hush\""
    ∧ quote "\"who said \"hush\"\"" = some "\"who said \"\"hush\"\"\""
    ∧ quote "\"who said \"\"hush\"\"\"" ≠ some "\"who said \"\"hush\"\"\"" := by
  have hinner : Encloses "\"who said \"hush\"\"" "who said \"hush\"" := .inl rfl
  have hliteral : quote "\"who said \"hush\"\"" = some "\"who said \"\"hush\"\"\"" := by
    decide +kernel
  refine ⟨hinner, hliteral, fun hfixed => ?_⟩
  exact (quote_fixed_iff hinner hliteral).1.1 hfixed '"' (by decide) (by decide)

end KeyBridge.Text
