-- SUMMARY: A header says which trigger, modifiers and edge its hotkey has.
import KeyBridge.Proofs.Attachments
import KeyBridge.Proofs.Sharing

/-!
# Headers

A header has no separators, but it can be read in one way only: the symbols of modifiers are a
prefix code, no label begins with a character of a symbol, and what follows the symbols comes apart
into words, of which the labels are different for different keys. So two hotkeys have one header
exactly if they are alike in their trigger, in the modifiers that count, and in firing when the
trigger goes up or not (`header_eq_iff_alike`).
-/

namespace KeyBridge

/-! ## Modifiers that count -/

/-- The distinct keys of a list are put in a set in the order in which they first appear. -/
theorem KeySet.keys_foldl_insert (given : List Key) (s : KeySet) :
    (given.foldl insert s).keys = s.keys ++ (given.filter (· ∉ s.keys)).eraseDups := by
  induction given generalizing s with
  | nil => simp
  | cons k given ih =>
    rw [List.foldl_cons, ih, keys_insert]
    by_cases hk : k ∈ s.keys
    · simp [hk]
    · have hrest : given.filter (· ∉ s.keys ++ [k])
          = (given.filter (· ∉ s.keys)).filter fun a => !a == k := by
        rw [List.filter_filter]
        apply List.filter_congr
        intro a _
        by_cases ha : a = k <;> simp [ha]
      rw [if_neg hk, hrest, List.filter_cons_of_pos (by simpa using hk), List.eraseDups_cons,
        List.append_assoc]
      rfl

theorem KeySet.keys_ofList (given : List Key) : (ofList given).keys = given.eraseDups := by
  have hall : given.filter (· ∉ KeySet.empty.keys) = given := by simp
  rw [ofList, keys_foldl_insert, hall]
  rfl

/-- The modifiers that count among those that are given for a trigger: the modifier keys that are
not part of a pair, each where it is given first. -/
def Trigger.counting (t : Trigger) (given : List Key) : List Key :=
  given.eraseDups.filter fun k => k.isModifier && !t.uses k

namespace Hotkey

/-- A hotkey that was made and changed by any calls, and the modifiers that were given last. -/
inductive BuiltWith : Hotkey → List Key → Prop where
  | plain (t : Trigger) (given : List Key) : BuiltWith (ofTrigger t given) given
  | seeded (g : Generator) (t : Trigger) (given : List Key) : BuiltWith (g.hotkey t given) given
  | given {h : Hotkey} {before : List Key} (given : List Key) : BuiltWith h before →
      BuiltWith (h.changed (.modifiers given)) given
  | changed {h : Hotkey} {given : List Key} {c : HotkeyChange} : BuiltWith h given →
      (∀ keys, c ≠ .modifiers keys) → BuiltWith (h.changed c) given

theorem modifiers_changed (h : Hotkey) {c : HotkeyChange} (hc : ∀ keys, c ≠ .modifiers keys) :
    (h.changed c).modifiers = h.modifiers := by
  cases c with
  | modifiers keys => exact absurd rfl (hc keys)
  | attachInto name d callback placement =>
    rw [changed_attachInto]
    split <;> rfl
  | _ => rfl

theorem BuiltWith.modifiers_eq {h : Hotkey} {given : List Key} (hbuilt : h.BuiltWith given) :
    h.modifiers = KeySet.ofList given := by
  induction hbuilt with
  | plain t given => rfl
  | seeded g t given => rfl
  | given given _ _ => rfl
  | changed _ hc ih => exact (modifiers_changed _ hc).trans ih

theorem BuiltWith.effectiveModifiers_eq {h : Hotkey} {given : List Key}
    (hbuilt : h.BuiltWith given) : h.effectiveModifiers = h.trigger.counting given := by
  rw [Binding.effectiveModifiers, hbuilt.modifiers_eq, KeySet.keys_ofList, Trigger.counting]

/-- Two hotkeys have the same trigger, count the same modifiers in the same order, and both fire
when the trigger goes up or neither does. -/
structure Alike (h : Hotkey) (given : List Key) (h' : Hotkey) (given' : List Key) : Prop where
  trigger : h.trigger = h'.trigger
  modifiers : h.trigger.counting given = h'.trigger.counting given'
  up : h.direction = .up ↔ h'.direction = .up

end Hotkey

/-! ## Reading modifiers -/

/-- The symbols of modifiers are a prefix code. -/
theorem Key.eq_of_modifierSymbol_isPrefix {k k' : Key} {symbol symbol' : String}
    (h : k.modifierSymbol = some symbol) (h' : k'.modifierSymbol = some symbol')
    (hbegins : symbol.toList <+: symbol'.toList) : k = k' := by
  have hcode : ∀ k ∈ Key.all.filter isModifier, ∀ k' ∈ Key.all.filter isModifier,
      ∀ symbol ∈ k.modifierSymbol, ∀ symbol' ∈ k'.modifierSymbol,
        symbol.toList <+: symbol'.toList → k = k' := by decide +kernel
  have hmem {k : Key} {symbol : String} (h : k.modifierSymbol = some symbol) :
      k ∈ Key.all.filter isModifier := by
    rw [List.mem_filter, isModifier, h]
    exact ⟨mem_all k, rfl⟩
  exact hcode k (hmem h) k' (hmem h') symbol h symbol' h' hbegins

/-- Whether a character may begin the symbol of a modifier. -/
def isSymbolChar (c : Char) : Bool := ['+', '^', '!', '#', '<', '>'].contains c

theorem exists_symbolChar {k : Key} {symbol : String} (h : k.modifierSymbol = some symbol) :
    ∃ c rest, symbol.toList = c :: rest ∧ isSymbolChar c = true := by
  have hall : ∀ k ∈ Key.all, ∀ symbol ∈ k.modifierSymbol,
      (symbol.toList.head?.any isSymbolChar) = true := by decide +kernel
  have hhead := hall k (Key.mem_all k) symbol h
  cases hsymbol : symbol.toList with
  | nil =>
    rw [hsymbol] at hhead
    cases hhead
  | cons c rest =>
    rw [hsymbol] at hhead
    exact ⟨c, rest, rfl, hhead⟩

/-- The symbols of some modifiers, in order. -/
def symbols (ks : List Key) : List Char :=
  (ks.filterMap Key.modifierSymbol).flatMap String.toList

theorem symbols_cons {k : Key} {symbol : String} (h : k.modifierSymbol = some symbol)
    (ks : List Key) : symbols (k :: ks) = symbol.toList ++ symbols ks := by
  rw [symbols, List.filterMap_cons, h]
  rfl

/-- Symbols in front of a text that does not begin like one are read in one way only. -/
theorem symbols_append_inj {ks ks' : List Key} {rest rest' : List Char}
    (hks : ∀ k ∈ ks, k.isModifier = true) (hks' : ∀ k ∈ ks', k.isModifier = true)
    (hrest : ∀ c ∈ rest.head?, isSymbolChar c = false)
    (hrest' : ∀ c ∈ rest'.head?, isSymbolChar c = false)
    (h : symbols ks ++ rest = symbols ks' ++ rest') : ks = ks' ∧ rest = rest' := by
  -- A text cannot begin with a symbol and not begin like one.
  have hapart {k : Key} {ks : List Key} {rest rest' : List Char} (hk : k.isModifier = true)
      (hrest : ∀ c ∈ rest.head?, isSymbolChar c = false) : rest ≠ symbols (k :: ks) ++ rest' := by
    obtain ⟨symbol, hsymbol⟩ := Option.isSome_iff_exists.1 hk
    obtain ⟨c, more, hmore, hc⟩ := exists_symbolChar hsymbol
    rw [symbols_cons hsymbol, hmore]
    rintro rfl
    have hnot := hrest c rfl
    rw [hc] at hnot
    cases hnot
  induction ks generalizing ks' with
  | nil =>
    cases ks' with
    | nil => exact ⟨rfl, h⟩
    | cons k' ks' => exact absurd h (hapart (hks' k' List.mem_cons_self) hrest)
  | cons k ks ih =>
    cases ks' with
    | nil => exact absurd h.symm (hapart (hks k List.mem_cons_self) hrest')
    | cons k' ks' =>
      obtain ⟨symbol, hsymbol⟩ := Option.isSome_iff_exists.1 (hks k List.mem_cons_self)
      obtain ⟨symbol', hsymbol'⟩ := Option.isSome_iff_exists.1 (hks' k' List.mem_cons_self)
      rw [symbols_cons hsymbol, symbols_cons hsymbol', List.append_assoc, List.append_assoc] at h
      have hk : k = k' := by
        have hfirst : symbol.toList <+: symbol'.toList ++ (symbols ks' ++ rest') :=
          h ▸ List.prefix_append _ _
        rcases List.prefix_or_prefix_of_prefix hfirst (List.prefix_append _ _) with hle | hle
        · exact Key.eq_of_modifierSymbol_isPrefix hsymbol hsymbol' hle
        · exact (Key.eq_of_modifierSymbol_isPrefix hsymbol' hsymbol hle).symm
      subst hk
      cases hsymbol.symm.trans hsymbol'
      obtain ⟨rfl, rfl⟩ := ih (fun x hx => hks x (List.mem_cons_of_mem _ hx))
        (fun x hx => hks' x (List.mem_cons_of_mem _ hx)) (List.append_cancel_left h)
      exact ⟨rfl, rfl⟩

/-! ## Reading triggers -/

/-- The words behind the label of a trigger: one if it fires going up. -/
def upWords (d : Direction) : List (List Char) := if d = .up then ["UP".toList] else []

theorem words_append_upMark {w : List Char} (hw : Text.IsWord w) (d : Direction) :
    Text.words (w ++ (Binding.upMark d).toList) = w :: upWords d := by
  cases d with
  | up => exact Text.words_append hw "UP".toList
  | down => exact (congrArg Text.words (List.append_nil w)).trans (Text.words_of_isWord hw)
  | both => exact (congrArg Text.words (List.append_nil w)).trans (Text.words_of_isWord hw)

theorem upWords_inj {d d' : Direction} (h : upWords d = upWords d') : d = .up ↔ d' = .up := by
  unfold upWords at h
  split at h <;> split at h <;> simp_all

/-- Different keys have different labels. -/
theorem Key.label_inj {k k' : Key} {l l' : String} (h : k.label = some l) (h' : k'.label = some l')
    (hl : l.toList = l'.toList) : k = k' :=
  Option.some.inj ((keyOf?_label h).symm.trans (hl ▸ keyOf?_label h'))

namespace Trigger

variable {t t' : Trigger} {keys keys' : String}

/-- What the text of a trigger is made of. -/
theorem eq_of_text (h : t.text? = some keys) :
    (∃ k, t = .key k ∧ k.label = some keys)
      ∨ ∃ left right l r, t = .combo left right ∧ left.label = some l ∧ right.label = some r
        ∧ keys = l ++ " & " ++ r := by
  cases t with
  | key k => exact .inl ⟨k, rfl, h⟩
  | combo left right =>
    rw [text?] at h
    split at h
    · rename_i l r hl hr
      exact .inr ⟨left, right, l, r, rfl, hl, hr, (Option.some.inj h).symm⟩
    · cases h

/-- The words of a single key with its mark. -/
theorem words_key {k : Key} {l : String} (hl : k.label = some l) (d : Direction) :
    Text.words (l.toList ++ (Binding.upMark d).toList) = l.toList :: upWords d :=
  words_append_upMark (Text.isWord_label hl) d

/-- The words of a pair with its mark. -/
theorem words_pair {left right : Key} {l r : String} (hl : left.label = some l)
    (hr : right.label = some r) (d : Direction) :
    Text.words ((l ++ " & " ++ r).toList ++ (Binding.upMark d).toList)
      = l.toList :: "&".toList :: r.toList :: upWords d := by
  have hsplit : (l ++ " & " ++ r).toList ++ (Binding.upMark d).toList
      = l.toList ++ ' ' :: ("&".toList ++ ' ' :: (r.toList ++ (Binding.upMark d).toList)) := by
    simp
  rw [hsplit, Text.words_append (Text.isWord_label hl), Text.words_append (by decide), words_key hr]

/-- No word behind a single key is the sign between the keys of a pair. -/
theorem upWords_ne (d : Direction) (ws : List (List Char)) : upWords d ≠ "&".toList :: ws := by
  cases d <;> simp [upWords]

/-- A trigger and its mark are read in one way only. -/
theorem text_append_inj {d d' : Direction} (h : t.text? = some keys) (h' : t'.text? = some keys')
    (heq : keys.toList ++ (Binding.upMark d).toList = keys'.toList ++ (Binding.upMark d').toList) :
    t = t' ∧ (d = .up ↔ d' = .up) := by
  have hwords := congrArg Text.words heq
  rcases eq_of_text h with ⟨k, rfl, hk⟩ | ⟨left, right, l, r, rfl, hl, hr, rfl⟩ <;>
    rcases eq_of_text h' with ⟨k', rfl, hk'⟩ | ⟨left', right', l', r', rfl, hl', hr', rfl⟩
  · rw [words_key hk, words_key hk'] at hwords
    obtain ⟨hword, hup⟩ := List.cons.inj hwords
    exact ⟨congrArg key (Key.label_inj hk hk' hword), upWords_inj hup⟩
  · rw [words_key hk, words_pair hl' hr'] at hwords
    exact absurd (List.cons.inj hwords).2 (upWords_ne d _)
  · rw [words_pair hl hr, words_key hk'] at hwords
    exact absurd (List.cons.inj hwords).2.symm (upWords_ne d' _)
  · rw [words_pair hl hr, words_pair hl' hr'] at hwords
    obtain ⟨hleft, hmore⟩ := List.cons.inj hwords
    obtain ⟨hright, hup⟩ := List.cons.inj (List.cons.inj hmore).2
    rw [Key.label_inj hl hl' hleft, Key.label_inj hr hr' hright]
    exact ⟨rfl, upWords_inj hup⟩

/-- The text of a trigger begins with a letter or a digit. -/
theorem head_text (h : t.text? = some keys) (rest : List Char) :
    ∀ c ∈ (keys.toList ++ rest).head?, isSymbolChar c = false := by
  have hall : ∀ k ∈ Key.all, ∀ l ∈ k.label, (l.toList.head?.any (!isSymbolChar ·)) = true := by
    decide +kernel
  have hlabel {k : Key} {l : String} (hl : k.label = some l) (rest : List Char) :
      ∀ c ∈ (l.toList ++ rest).head?, isSymbolChar c = false := by
    obtain ⟨c, hc, hnot⟩ := (Option.any_eq_true ..).1 (hall k (Key.mem_all k) l hl)
    obtain ⟨more, hmore⟩ := List.head?_eq_some_iff.1 hc
    rw [hmore]
    rintro c' hc'
    cases hc'
    simpa using hnot
  rcases eq_of_text h with ⟨k, rfl, hk⟩ | ⟨left, right, l, r, rfl, hl, hr, rfl⟩
  · exact hlabel hk rest
  · rw [String.toList_append, String.toList_append, List.append_assoc, List.append_assoc]
    exact hlabel hl _

end Trigger

/-! ## Reading headers -/

namespace Binding

variable {b b' : Binding} {header header' : String}

theorem modifierText_eq (b : Binding) : b.modifierText.toList = symbols b.effectiveModifiers :=
  String.toList_join ..

theorem isModifier_of_mem_effectiveModifiers {k : Key} (hk : k ∈ b.effectiveModifiers) :
    k.isModifier = true := by
  have hcounts := (List.mem_filter.1 hk).2
  rw [Bool.and_eq_true] at hcounts
  exact hcounts.1

/-- A header is read in one way only. -/
theorem header_inj (h : b.header? = some header) (h' : b'.header? = some header) :
    b.trigger = b'.trigger ∧ b.effectiveModifiers = b'.effectiveModifiers
      ∧ (b.direction = .up ↔ b'.direction = .up) := by
  obtain ⟨keys, hkeys, hheader⟩ := Option.map_eq_some_iff.1 h
  obtain ⟨keys', hkeys', hheader'⟩ := Option.map_eq_some_iff.1 h'
  have hlist := congrArg String.toList (hheader.trans hheader'.symm)
  simp only [String.toList_append, List.append_assoc, modifierText_eq] at hlist
  obtain ⟨hmodifiers, hrest⟩ := symbols_append_inj
    (fun k hk => isModifier_of_mem_effectiveModifiers hk)
    (fun k hk => isModifier_of_mem_effectiveModifiers hk)
    (Trigger.head_text hkeys _) (Trigger.head_text hkeys' _) hlist
  obtain ⟨htrigger, hup⟩ := Trigger.text_append_inj hkeys hkeys' hrest
  exact ⟨htrigger, hmodifiers, hup⟩

/-- A header depends on nothing else. -/
theorem header_congr (htrigger : b.trigger = b'.trigger)
    (hmodifiers : b.effectiveModifiers = b'.effectiveModifiers)
    (hup : b.direction = .up ↔ b'.direction = .up) : b.header? = b'.header? := by
  have hmark : upMark b.direction = upMark b'.direction := by
    cases hd : b.direction <;> cases hd' : b'.direction <;> simp_all [upMark]
  rw [header?, header?, modifierText, modifierText, htrigger, hmodifiers, hmark]

/-- What holds of the characters of all labels and symbols holds of those of headers. -/
theorem all_header {p : Char → Bool} (hlabel : ∀ k : Key, ∀ l ∈ k.label, l.toList.all p = true)
    (hsymbol : ∀ k : Key, ∀ symbol ∈ k.modifierSymbol, symbol.toList.all p = true)
    (hsign : " & ".toList.all p = true) (hmark : " UP".toList.all p = true)
    (h : b.header? = some header) : header.toList.all p = true := by
  obtain ⟨keys, hkeys, rfl⟩ := Option.map_eq_some_iff.1 h
  simp only [String.toList_append, List.all_append, Bool.and_eq_true, modifierText_eq]
  refine ⟨⟨?_, ?_⟩, ?_⟩
  · rw [List.all_eq_true]
    intro c hc
    obtain ⟨symbol, hmem, hc⟩ := List.mem_flatMap.1 hc
    obtain ⟨k, -, hk⟩ := List.mem_filterMap.1 hmem
    exact List.all_eq_true.1 (hsymbol k symbol hk) c hc
  · rcases Trigger.eq_of_text hkeys with ⟨k, -, hk⟩ | ⟨left, right, l, r, -, hl, hr, rfl⟩
    · exact hlabel k keys hk
    · simp only [String.toList_append, List.all_append, Bool.and_eq_true]
      exact ⟨⟨hlabel left l hl, hsign⟩, hlabel right r hr⟩
  · cases b.direction with
    | up => exact hmark
    | down => rfl
    | both => rfl

end Binding

/-! ## Quoting headers -/

theorem Binding.isEscaped_header {b : Binding} {header : String} (h : b.header? = some header) :
    ∀ c ∈ header.toList, Text.isEscaped c = false := by
  have hlabel : ∀ k ∈ Key.all, ∀ l ∈ k.label, l.toList.all (!Text.isEscaped ·) = true := by
    decide +kernel
  have hsymbol : ∀ k ∈ Key.all, ∀ symbol ∈ k.modifierSymbol,
      symbol.toList.all (!Text.isEscaped ·) = true := by decide +kernel
  have hall := all_header (fun k => hlabel k (Key.mem_all k)) (fun k => hsymbol k (Key.mem_all k))
    (by decide) (by decide) h
  intro c hc
  simpa using List.all_eq_true.1 hall c hc

theorem Binding.not_isBlankText_header {b : Binding} {header : String}
    (h : b.header? = some header) : Text.isBlankText header = false := by
  obtain ⟨-, ⟨c, hc, hblank⟩, -⟩ := isLabelText_iff.1 (isLabelText_header h)
  rw [Text.isBlankText, Text.allBlank, List.all_eq_false]
  exact ⟨c, hc, by simp [hblank]⟩

/-! ## Headers tell hotkeys apart -/

/-- Of two callbacks that are registered one after the other, the second one takes the place of the
first if their headers are the same. -/
theorem Host.get?_register_register {host : Host} {id : RegistryId}
    (hid : id.index < host.registries.length) (header header' : String)
    (callback callback' : Callback) :
    (((host.register id header callback).2.register id header' callback').2.registry id).get? header
      = if header = header' then some callback' else some callback := by
  have hid' : id.index < (host.register id header callback).2.registries.length :=
    Nat.lt_of_lt_of_eq hid List.length_set.symm
  rw [registry_register, if_pos ⟨rfl, hid'⟩, registry_register, if_pos ⟨rfl, hid⟩,
    Table.get?_insert, Table.get?_insert_self]

/-- Two hotkeys, however they were built, have the same header exactly if they are alike: they have
the same trigger, count the same modifiers in the same order, and both or neither fire when the
trigger goes up. So one registration takes the place of another exactly for hotkeys that are alike.
A header is not blank and has nothing to escape, so its literal is the header between quotes. -/
theorem header_eq_iff_alike {h h' : Hotkey} {given given' : List Key}
    (hbuilt : h.BuiltWith given) (hbuilt' : h'.BuiltWith given') {header header' : String}
    (hheader : h.header? = some header) (hheader' : h'.header? = some header') :
    (header = header' ↔ h.Alike given h' given')
    ∧ (∀ (host : Host) (id : RegistryId) (callback callback' : Callback),
      id.index < host.registries.length →
      let after := ((host.register id header callback).2.register id header' callback').2
      (h.Alike given h' given' → (after.registry id).get? header = some callback')
        ∧ (¬ h.Alike given h' given' → (after.registry id).get? header = some callback))
    ∧ Text.isBlankText header = false
    ∧ (∀ c ∈ header.toList, c ∉ ['"', '\x60', '\r', '\n', '\t'])
    ∧ Text.quote header = some ("\"" ++ header ++ "\"") := by
  have halike : header = header' ↔ h.Alike given h' given' := by
    constructor
    · rintro rfl
      obtain ⟨htrigger, hmodifiers, hup⟩ := Binding.header_inj hheader hheader'
      rw [hbuilt.effectiveModifiers_eq, hbuilt'.effectiveModifiers_eq] at hmodifiers
      exact ⟨htrigger, hmodifiers, hup⟩
    · rintro ⟨htrigger, hmodifiers, hup⟩
      rw [← hbuilt.effectiveModifiers_eq, ← hbuilt'.effectiveModifiers_eq] at hmodifiers
      exact Option.some.inj
        (hheader.symm.trans ((Binding.header_congr htrigger hmodifiers hup).trans hheader'))
  have hplain := Binding.isEscaped_header hheader
  have hblank := Binding.not_isBlankText_header hheader
  refine ⟨halike, ?_, hblank, ?_, Text.quote_of_not_isEscaped hblank hplain⟩
  · intro host id callback callback' hid after
    have hget := Host.get?_register_register hid header header' callback callback'
    refine ⟨fun hsame => hget.trans (if_pos (halike.2 hsame)), fun hother => ?_⟩
    exact hget.trans (if_neg fun heq => hother (halike.1 heq))
  · intro c hc hmem
    have hnot := hplain c hc
    rw [Text.isEscaped, List.contains_eq_mem, decide_eq_false_iff_not] at hnot
    exact hnot hmem

/-- Two hotkeys on one pair that were built in different ways. -/
theorem pairs_share_header :
    let h := (Hotkey.ofTrigger (.combo .letterA .control)
      [.control, .shift, .shift, .letterB]).changed (.direction .both)
    let h' := (Hotkey.ofTrigger (.key .letterA) []).changed (.trigger (.combo .letterA .control))
      |>.changed (.modifiers [.shift])
    h.header? = some "+a & Control" ∧ h'.header? = some "+a & Control"
      ∧ h.Alike [.control, .shift, .shift, .letterB] h' [.shift]
      ∧ Text.quote "+a & Control" = some "\"+a & Control\"" := by
  intro h h'
  have hbuilt : h.BuiltWith [.control, .shift, .shift, .letterB] :=
    .changed (.plain _ _) (by simp)
  have hbuilt' : h'.BuiltWith [.shift] := .given _ (.changed (.plain _ _) (by simp))
  have hheader : h.header? = some "+a & Control" := by decide
  have hheader' : h'.header? = some "+a & Control" := by decide
  obtain ⟨halike, -, -, -, hquote⟩ := header_eq_iff_alike hbuilt hbuilt' hheader hheader'
  exact ⟨hheader, hheader', halike.1 rfl, hquote⟩

end KeyBridge
