-- SUMMARY: Words and lines of text, and what reads back as one.
import KeyBridge.Action.Layout

/-!
# Words and lines

A word has no space, no end of a line and no brace, so what is put together from words, spaces and
braces comes apart into the same words again. Numbers and labels are words. A line has no end of a
line, so what is put together from lines and line feeds comes apart into the same lines.
-/

namespace KeyBridge

namespace Text

/-! ## Words -/

/-- Whether a character may stand in a word: it ends no word, no line and no group. -/
def isPlain (c : Char) : Bool :=
  c ≠ ' ' && c ≠ '\n' && c ≠ '\r' && c ≠ '\x7b' && c ≠ '\x7d'

/-- A text made of characters of words. -/
def IsWord (cs : List Char) : Prop := ∀ c ∈ cs, isPlain c = true

instance (cs : List Char) : Decidable (IsWord cs) :=
  decidable_of_iff (cs.all isPlain = true) List.all_eq_true

/-- The parts of a text between spaces. -/
def words : List Char → List (List Char)
  | [] => [[]]
  | c :: cs =>
    if c = ' ' then [] :: words cs
    else
      match words cs with
      | [] => [[c]]
      | w :: ws => (c :: w) :: ws

/-- The parts of a text between braces; `inside` is what was read of a part that is not closed. -/
def groupsFrom : Option (List Char) → List Char → List (List Char)
  | _, [] => []
  | none, c :: cs => if c = '\x7b' then groupsFrom (some []) cs else groupsFrom none cs
  | some inside, c :: cs =>
    if c = '\x7d' then inside :: groupsFrom none cs else groupsFrom (some (inside ++ [c])) cs

/-- The parts of a text between braces. -/
def groups (cs : List Char) : List (List Char) := groupsFrom none cs

theorem isPlain_iff {c : Char} : isPlain c = true ↔
    c ≠ ' ' ∧ c ≠ '\n' ∧ c ≠ '\r' ∧ c ≠ '\x7b' ∧ c ≠ '\x7d' := by
  simp [isPlain, and_assoc]

theorem isPlain_of_isDigit {c : Char} (h : c.isDigit = true) : isPlain c = true := by
  rw [isPlain_iff]
  refine ⟨?_, ?_, ?_, ?_, ?_⟩
  all_goals
    rintro rfl
    revert h
    decide

section IsWord

variable {c : Char} {w cs : List Char}

@[simp] theorem isWord_cons : IsWord (c :: w) ↔ isPlain c = true ∧ IsWord w :=
  List.forall_mem_cons

theorem words_append (hw : IsWord w) (cs : List Char) :
    words (w ++ ' ' :: cs) = w :: words cs := by
  induction w with
  | nil => rfl
  | cons c w ih =>
    obtain ⟨hc, hw⟩ := isWord_cons.1 hw
    simp [words, (isPlain_iff.1 hc).1, ih hw]

theorem words_of_isWord (hw : IsWord w) : words w = [w] := by
  induction w with
  | nil => rfl
  | cons c w ih =>
    obtain ⟨hc, hw⟩ := isWord_cons.1 hw
    simp [words, (isPlain_iff.1 hc).1, ih hw]

theorem groups_braced (hclose : '\x7d' ∉ w) (cs : List Char) :
    groups ('\x7b' :: (w ++ '\x7d' :: cs)) = w :: groups cs := by
  have hinside (before : List Char) :
      groupsFrom (some before) (w ++ '\x7d' :: cs) = (before ++ w) :: groups cs := by
    induction w generalizing before with
    | nil => simp [groupsFrom, groups]
    | cons c w ih =>
      have hc : c ≠ '\x7d' := fun h => hclose (h ▸ List.mem_cons_self)
      have hrest := ih (fun h => hclose (List.mem_cons_of_mem _ h)) (before ++ [c])
      simpa [groupsFrom, hc] using hrest
  exact hinside []

/-! ## Lines -/

/-- A text without the end of a line. -/
def IsLine (cs : List Char) : Prop := ∀ c ∈ cs, c ≠ '\n' ∧ c ≠ '\r'

instance (cs : List Char) : Decidable (IsLine cs) :=
  decidable_of_iff (cs.all (fun c => c ≠ '\n' ∧ c ≠ '\r') = true) (by simp [IsLine])

@[simp] theorem isLine_nil : IsLine [] := fun _ h => by cases h

@[simp] theorem isLine_cons : IsLine (c :: w) ↔ (c ≠ '\n' ∧ c ≠ '\r') ∧ IsLine w :=
  List.forall_mem_cons

@[simp] theorem isLine_append : IsLine (w ++ v) ↔ IsLine w ∧ IsLine v :=
  List.forall_mem_append

theorem IsWord.isLine (hw : IsWord w) : IsLine w := by
  intro c hc
  have hchar := isPlain_iff.1 (hw c hc)
  exact ⟨hchar.2.1, hchar.2.2.1⟩

theorem IsWord.not_mem_close (hw : IsWord w) : '\x7d' ∉ w := by
  intro hmem
  exact (isPlain_iff.1 (hw _ hmem)).2.2.2.2 rfl

theorem lines_append_newline (hw : IsLine w) (cs : List Char) :
    lines (w ++ '\n' :: cs) = w :: lines cs := by
  induction w with
  | nil => rw [List.nil_append, lines_newline]
  | cons c w ih =>
    obtain ⟨⟨hc, hc'⟩, hw⟩ := isLine_cons.1 hw
    simp [lines, hc, hc', ih hw]

theorem lines_of_isLine (hw : IsLine w) : lines w = if w = [] then [] else [w] := by
  induction w with
  | nil => rfl
  | cons c w ih =>
    obtain ⟨⟨hc, hc'⟩, hw⟩ := isLine_cons.1 hw
    by_cases hnil : w = []
    · simp [lines, hnil, hc, hc']
    · simp [lines, hc, hc', ih hw, hnil]

end IsWord

/-! ## Numbers -/

section

variable {c : Char}

theorem isDigit_of_mem_digitText {n : Nat} (h : c ∈ Decimal.digitText n) : c.isDigit = true :=
  Nat.isDigit_of_mem_toDigits (by decide) (by decide) h

theorem mem_positional {d : Decimal} (h : c ∈ d.positional) : c.isDigit = true ∨ c = '.' := by
  have hzeros {n : Nat} (hc : c ∈ List.replicate n '0') : c.isDigit = true := by
    rw [List.eq_of_mem_replicate hc]
    decide
  simp only [Decimal.positional] at h
  split at h
  · rcases List.mem_append.1 h with h | h
    · exact .inl (isDigit_of_mem_digitText h)
    · exact .inl (hzeros h)
  · split at h
    · rcases List.mem_append.1 h with h | h
      · exact .inl (isDigit_of_mem_digitText (List.mem_of_mem_take h))
      · rcases List.mem_cons.1 h with rfl | h
        · exact .inr rfl
        · exact .inl (isDigit_of_mem_digitText (List.mem_of_mem_drop h))
    · rcases List.mem_cons.1 h with rfl | h
      · exact .inl (by decide)
      · rcases List.mem_cons.1 h with rfl | h
        · exact .inr rfl
        · rcases List.mem_append.1 h with h | h
          · exact .inl (hzeros h)
          · exact .inl (isDigit_of_mem_digitText h)

/-- The characters of numbers, of the infinite ones and of what is no number. -/
theorem mem_text {x : Single} (h : c ∈ x.text.toList) :
    c.isDigit = true ∨ c ∈ ['.', '-', 'i', 'n', 'f', 'N', 'a'] := by
  have hsign (hc : c ∈ (if x.isNegative then "-" else "").toList) : c = '-' := by
    split at hc
    · exact List.mem_singleton.1 hc
    · cases hc
  simp only [Single.text, Single.textWith] at h
  split at h
  · split at h
    · rw [String.toList_append] at h
      rcases List.mem_append.1 h with h | h
      · simp [hsign h]
      · have hinf : ∀ c ∈ ['i', 'n', 'f'], c ∈ ['.', '-', 'i', 'n', 'f', 'N', 'a'] := by simp
        exact .inr (hinf c h)
    · have hnan : ∀ c ∈ ['N', 'a', 'N'], c ∈ ['.', '-', 'i', 'n', 'f', 'N', 'a'] := by simp
      exact .inr (hnan c h)
  · split at h
    · rw [String.toList_append] at h
      rcases List.mem_append.1 h with h | h
      · simp [hsign h]
      · rw [List.mem_singleton.1 h]
        exact .inl (by decide)
    · rw [String.toList_append, String.toList_ofList] at h
      rcases List.mem_append.1 h with h | h
      · simp [hsign h]
      · rcases mem_positional h with h | rfl
        · exact .inl h
        · exact .inr List.mem_cons_self

theorem mem_millisText {d : Duration} (h : c ∈ d.millisText.toList) :
    c.isDigit = true ∨ c = '.' := by
  unfold Duration.millisText at h
  split at h
  · rw [List.mem_singleton.1 h]
    exact .inl (by decide)
  · rw [String.toList_ofList] at h
    exact mem_positional h

end

theorem isWord_text (x : Single) : IsWord x.text.toList := by
  have hletters : IsWord ['.', '-', 'i', 'n', 'f', 'N', 'a'] := by decide
  intro c hc
  rcases mem_text hc with hdigit | hletter
  · exact isPlain_of_isDigit hdigit
  · exact hletters c hletter

theorem isWord_millisText (d : Duration) : IsWord d.millisText.toList := by
  intro c hc
  rcases mem_millisText hc with hdigit | rfl
  · exact isPlain_of_isDigit hdigit
  · decide

/-! ## Labels -/

theorem isWord_label {k : Key} {l : String} (h : k.label = some l) : IsWord l.toList := by
  cases k <;> cases h <;> decide +kernel

theorem isWord_clickLabel {k : Key} {l : String} (h : k.clickLabel = some l) : IsWord l.toList := by
  cases k <;> cases h <;> decide +kernel

end Text

end KeyBridge
