-- SUMMARY: Paths piece by piece: where a way goes on from a directory, and the path of a socket.
import KeyBridge.Proofs.Places
import Mathlib.Data.List.Induction

/-!
# Ways

A way to a place is taken component by component, so what comes after the components that lead to a
directory goes on from there, whatever links led to it (`Files.lead_onward`). A socket's path leads
to the entry of its name in the directory to which the directory's path leads
(`Files.locate_socket`).
-/

namespace KeyBridge

namespace Path

/-! ## Pieces -/

theorem piecesFrom_append_slash (piece cs ds : List Char) :
    piecesFrom piece (cs ++ '/' :: ds) = piecesFrom piece cs ++ piecesFrom [] ds := by
  induction cs generalizing piece with
  | nil => simp [piecesFrom]
  | cons c cs ih =>
    rw [List.cons_append, piecesFrom, piecesFrom]
    split
    · rw [ih, List.cons_append]
    · rw [ih]

theorem piecesFrom_of_no_slash {cs : List Char} (h : '/' ∉ cs) (piece : List Char) :
    piecesFrom piece cs = [String.ofList (piece ++ cs)] := by
  induction cs generalizing piece with
  | nil => simp [piecesFrom]
  | cons c cs ih =>
    obtain ⟨hc, hcs⟩ : '/' ≠ c ∧ '/' ∉ cs := by simpa using h
    rw [piecesFrom, if_neg (Ne.symm hc), ih hcs]
    simp

theorem components_of_no_slash {name : String} (h : '/' ∉ name.toList) :
    components name = [name] := by
  rw [components, piecesFrom_of_no_slash h, List.nil_append, String.ofList_toList]

theorem components_append_slash (directory path : String) :
    components (directory ++ "/" ++ path) = components directory ++ components path := by
  rw [components, String.toList_append, String.toList_append, List.append_assoc]
  exact piecesFrom_append_slash [] _ _

/-! ## Names -/

/-- Whether a component leads on to an entry of a directory. -/
def leadsOn (c : String) : Bool := !stays c && c ≠ ".."

theorem leadsOn_append_sock (name : String) : leadsOn (name ++ ".sock") = true := by
  have hne (s : String) (hs : s.length < 5) : name ++ ".sock" ≠ s := by
    rintro rfl
    have hlength : ".sock".length = 5 := rfl
    rw [String.length_append, hlength] at hs
    omega
  simp [leadsOn, stays, hne "" (by decide), hne "." (by decide), hne ".." (by decide)]

theorem isReadable_append_sock (name : String) :
    isReadable (name ++ ".sock") = isReadable name := by
  simp [isReadable]

theorem isReadable_of_stays {c : String} (h : stays c = true) : isReadable c = true := by
  rcases (by simpa [stays] using h : c = "" ∨ c = ".") with rfl | rfl <;> decide

/-- A path goes on from the directory that it is joined to, of which an empty component at the end
is left out. -/
theorem components_join {path : String} (h : isAbsolute path = false) (directory : String) :
    ∃ base, components (join directory path) = base ++ components path
      ∧ (components directory = base ∨ components directory = base ++ [""]) := by
  rw [join, h, if_neg Bool.false_ne_true]
  split
  · rename_i hend
    rcases (by simpa using hend : directory = "" ∨ directory.toList.getLast? = some '/') with
      rfl | hlast
    · exact ⟨[], by rw [String.empty_append, List.nil_append], .inr rfl⟩
    · obtain ⟨front, hfront⟩ := List.getLast?_eq_some_iff.1 hlast
      have hdirectory : directory = String.ofList front ++ "/" ++ "" := by
        rw [← String.toList_inj]
        simp [hfront]
      refine ⟨components (String.ofList front), ?_, .inr ?_⟩
      · rw [hdirectory, String.append_empty, components_append_slash]
      · rw [hdirectory, components_append_slash]
        rfl
  · exact ⟨components directory, components_append_slash _ _, .inl rfl⟩

/-- The path of a socket ends in its name, if that has no slash in it. -/
theorem components_socket {channel : String} (h : '/' ∉ channel.toList) (directory : String) :
    ∃ base, components (socket directory channel) = base ++ [channel ++ ".sock"]
      ∧ (components directory = base ∨ components directory = base ++ [""]) := by
  have hname : '/' ∉ (channel ++ ".sock").toList := by simpa using h
  have hrelative : isAbsolute (channel ++ ".sock") = false := by
    rw [isAbsolute, decide_eq_false_iff_not]
    exact fun hhead => hname (List.mem_of_mem_head? hhead)
  rw [← components_of_no_slash hname]
  exact components_join hrelative directory

end Path

namespace Files

/-! ## Going on -/

/-- A way that goes on from a directory, if it does not end in an error before. -/
def Onward (f : Files) (go : List String → Except FileError Location) : Prop :=
  (∃ e, ∀ rest, rest ≠ [] → go rest = .error e)
    ∨ ∃ l links, ∀ rest, rest ≠ [] → go rest = f.lead links l rest

section

variable {f f' : Files} {l : Location} {components : List String} {c : String}

theorem leadWith_onward {follow : Location → List String → Except FileError Location} (links : Nat)
    (hlead : f.lead links = f.leadWith follow)
    (hfollow : ∀ here components, f.Onward fun rest => follow here (components ++ rest))
    (components : List String) (here : Location) :
    f.Onward fun rest => f.leadWith follow here (components ++ rest) := by
  induction components generalizing here with
  | nil => exact .inr ⟨here, links, fun rest _ => congrFun (congrFun hlead.symm here) rest⟩
  | cons c components ih =>
    simp only [List.cons_append]
    -- what comes after the component is not empty
    have hstep (go : List String → Except FileError Location) (hgo : f.Onward go)
        (heq : ∀ rest, rest ≠ [] → f.leadWith follow here (c :: (components ++ rest)) = go rest) :
        f.Onward fun rest => f.leadWith follow here (c :: (components ++ rest)) := by
      rcases hgo with ⟨e, herror⟩ | ⟨l, links, hgo⟩
      · exact .inl ⟨e, fun rest hrest => (heq rest hrest).trans (herror rest hrest)⟩
      · exact .inr ⟨l, links, fun rest hrest => (heq rest hrest).trans (hgo rest hrest)⟩
    by_cases hstays : Path.stays c
    · exact hstep _ (ih here) fun rest _ => by rw [Files.leadWith, if_pos hstays]
    by_cases hup : c = ".."
    · exact hstep _ (ih here.dropLast) fun rest _ => by
        rw [Files.leadWith, if_neg hstays, if_pos hup]
    have hmore {rest : List String} (hrest : rest ≠ []) : components ++ rest ≠ [] := by
      simp [hrest]
    cases hentry : f.get? (here ++ [c]) with
    | none =>
      exact .inl ⟨.notFound, fun rest hrest => by
        simp [Files.leadWith, hstays, hup, hmore hrest, hentry]⟩
    | some e =>
      cases e with
      | directory mode =>
        exact hstep _ (ih (here ++ [c])) fun rest hrest => by
          simp [Files.leadWith, hstays, hup, hrest, hentry]
      | link target =>
        refine hstep _ (hfollow (if Path.isAbsolute target then [] else here)
          (Path.components target ++ components)) fun rest hrest => ?_
        simp [Files.leadWith, hstays, hup, hrest, hentry]
      | _ =>
        exact .inl ⟨.notDirectory, fun rest hrest => by
          simp [Files.leadWith, hstays, hup, hmore hrest, hentry]⟩

theorem lead_onward (f : Files) (links : Nat) (here : Location) (components : List String) :
    f.Onward fun rest => f.lead links here (components ++ rest) := by
  induction links generalizing here components with
  | zero => exact leadWith_onward 0 rfl (fun _ _ => .inl ⟨_, fun _ _ => rfl⟩) _ here
  | succ links ih => exact leadWith_onward (links + 1) rfl ih components here

theorem lead_singleton (f : Files) (links : Nat) (here : Location) (c : String) :
    f.lead links here [c] = .ok (if Path.stays c then here
      else if c = ".." then here.dropLast else here ++ [c]) := by
  have hleadWith {follow : Location → List String → Except FileError Location} :
      f.leadWith follow here [c] = .ok (if Path.stays c then here
        else if c = ".." then here.dropLast else here ++ [c]) := by
    rw [leadWith]
    split
    · rfl
    split
    · rfl
    · exact if_pos rfl
  cases links <;> exact hleadWith

theorem lead_of_stays {rest : List String} (h : rest.all Path.stays = true) (links : Nat)
    (here : Location) : f.lead links here rest = .ok here := by
  have hleadWith {follow : Location → List String → Except FileError Location} :
      f.leadWith follow here rest = .ok here := by
    induction rest with
    | nil => rfl
    | cons c rest ih =>
      obtain ⟨hc, hrest⟩ := Bool.and_eq_true_iff.1 h
      rw [leadWith, if_pos hc]
      exact ih hrest
  cases links <;> exact hleadWith

theorem lead_directory {mode : Nat} (hc : Path.leadsOn c = true)
    (hentry : f.get? (l ++ [c]) = some (.directory mode)) (links : Nat) :
    f.lead links l [c, "."] = .ok (l ++ [c]) := by
  obtain ⟨hstays, hup⟩ : Path.stays c = false ∧ c ≠ ".." := by simpa [Path.leadsOn] using hc
  cases links <;> simp only [lead, leadWith, hstays, hup, hentry] <;> rfl

theorem lead_nothing (hc : Path.leadsOn c = true) (hentry : f.get? (l ++ [c]) = none)
    (links : Nat) : f.lead links l [c, "."] = .error .notFound := by
  obtain ⟨hstays, hup⟩ : Path.stays c = false ∧ c ≠ ".." := by simpa [Path.leadsOn] using hc
  cases links <;> simp only [lead, leadWith, hstays, hup, hentry] <;> rfl

/-- What comes after the components of a path goes on from the directory to which they lead. -/
theorem locate_onward (f : Files) (components : List String) :
    (∃ e, ∀ rest, rest ≠ [] → rest.all Path.isReadable = true →
        f.locate (components ++ rest) = .error e)
      ∨ ∃ l links, f.Solid l ∧ ∀ rest, rest ≠ [] → rest.all Path.isReadable = true →
        f.locate (components ++ rest) = f.lead links l rest := by
  have hlocate {rest : List String} (hrest : rest.all Path.isReadable = true) :
      f.locate (components ++ rest) = if components.all Path.isReadable = true
        then f.lead maxLinks [] (components ++ rest) else .error .invalidName := by
    rw [locate, List.all_append, hrest, Bool.and_true]
  by_cases hreadable : components.all Path.isReadable = true
  · rcases f.lead_onward maxLinks [] components with ⟨e, herror⟩ | ⟨l, links, hlead⟩
    · refine .inl ⟨e, fun rest hne hrest => ?_⟩
      rw [hlocate hrest, if_pos hreadable]
      exact herror rest hne
    · refine .inr ⟨l, links, ?_, fun rest hne hrest => ?_⟩
      · exact solid_of_lead maxLinks components f.solid_top
          ((hlead ["."] (List.cons_ne_nil _ _)).trans (lead_singleton ..))
      · rw [hlocate hrest, if_pos hreadable]
        exact hlead rest hne
  · exact .inl ⟨.invalidName, fun rest _ hrest => by rw [hlocate hrest, if_neg hreadable]⟩

/-- A name after the components of a path leads to an entry of their directory. -/
theorem locate_concat (hc : Path.leadsOn c = true) (hreadable : Path.isReadable c = true) :
    f.locate (components ++ [c]) = (f.locateDirectory components).map (· ++ [c]) := by
  obtain ⟨hstays, hup⟩ : Path.stays c = false ∧ c ≠ ".." := by simpa [Path.leadsOn] using hc
  have hrest : [c].all Path.isReadable = true := by simp [hreadable]
  rw [locateDirectory]
  rcases f.locate_onward components with ⟨e, herror⟩ | ⟨l, links, -, hlead⟩
  · rw [herror [c] (List.cons_ne_nil _ _) hrest, herror ["."] (List.cons_ne_nil _ _) rfl]
    rfl
  · rw [hlead [c] (List.cons_ne_nil _ _) hrest, hlead ["."] (List.cons_ne_nil _ _) rfl,
      lead_singleton, lead_singleton, hstays, if_neg Bool.false_ne_true, if_neg hup]
    rfl

theorem locate_append_stays {rest : List String} (hne : rest ≠ [])
    (hrest : rest.all Path.stays = true) :
    f.locate (components ++ rest) = f.locateDirectory components := by
  have hreadable : rest.all Path.isReadable = true := by
    rw [List.all_eq_true] at hrest ⊢
    exact fun c hc => Path.isReadable_of_stays (hrest c hc)
  rw [locateDirectory]
  rcases f.locate_onward components with ⟨e, herror⟩ | ⟨l, links, -, hlead⟩
  · rw [herror rest hne hreadable, herror ["."] (List.cons_ne_nil _ _) rfl]
  · rw [hlead rest hne hreadable, hlead ["."] (List.cons_ne_nil _ _) rfl,
      lead_of_stays hrest, lead_of_stays rfl]

theorem locateDirectory_append_stays {rest : List String} (hrest : rest.all Path.stays = true) :
    f.locateDirectory (components ++ rest) = f.locateDirectory components := by
  rw [locateDirectory, List.append_assoc]
  exact locate_append_stays (by simp) (by simp [hrest, Path.stays])

theorem locate_append_of_error {e : FileError} (h : f.locateDirectory components = .error e)
    {rest : List String} (hne : rest ≠ []) (hrest : rest.all Path.isReadable = true) :
    f.locate (components ++ rest) = .error e := by
  rw [locateDirectory] at h
  rcases f.locate_onward components with ⟨e', herror⟩ | ⟨l, links, -, hlead⟩
  · rw [herror ["."] (List.cons_ne_nil _ _) rfl] at h
    rw [herror rest hne hrest, h]
  · rw [hlead ["."] (List.cons_ne_nil _ _) rfl, lead_of_stays rfl] at h
    cases h

/-! ## What is at the end -/

/-- There is nothing at the end of a way. -/
def Absent (f : Files) (components : List String) : Prop :=
  f.locate components = .error .notFound ∨ ∃ l, f.locate components = .ok l ∧ f.get? l = none

theorem look_eq_notFound_iff {path : String} :
    f.look path = .error .notFound ↔ f.Absent (Path.components path) := by
  rw [look_eq, Absent]
  rcases f.locate (Path.components path) with e | l
  · simp
  · rcases hentry : f.get? l with _ | entry <;> simp [hentry]

theorem look_eq_ok_iff {path : String} {entry : FileEntry} : f.look path = .ok entry
    ↔ ∃ l, f.locate (Path.components path) = .ok l ∧ f.get? l = some entry := by
  rw [look_eq]
  rcases f.locate (Path.components path) with e | l
  · simp
  · rcases hentry : f.get? l with _ | entry' <;> simp [hentry]

/-- A way ends at a directory, in an error, or at an entry of a directory. -/
theorem locate_cases (f : Files) (components : List String) :
    (∃ l, f.Solid l ∧ f.locate components = .ok l ∧ f.locateDirectory components = .ok l)
      ∨ (∃ e, f.locate components = .error e ∧ f.locateDirectory components = .error e)
      ∨ ∃ l links c, Path.leadsOn c = true ∧ f.locate components = .ok (l ++ [c])
        ∧ f.locateDirectory components = f.lead links l [c, "."] := by
  rcases List.eq_nil_or_concat components with rfl | ⟨before, c, rfl⟩
  · exact .inl ⟨[], f.solid_top, rfl, rfl⟩
  rw [List.concat_eq_append]
  by_cases hreadable : Path.isReadable c = true
  · have hend : [c].all Path.isReadable = true := by simp [hreadable]
    have hrest : [c, "."].all Path.isReadable = true := by simp [hreadable]; rfl
    rw [locateDirectory, List.append_assoc, List.singleton_append]
    rcases f.locate_onward before with ⟨e, herror⟩ | ⟨l, links, hsolid, hlead⟩
    · exact .inr (.inl ⟨e, herror _ (List.cons_ne_nil _ _) hend,
        herror _ (List.cons_ne_nil _ _) hrest⟩)
    rw [hlead _ (List.cons_ne_nil _ _) hend, hlead _ (List.cons_ne_nil _ _) hrest, lead_singleton]
    by_cases hstays : Path.stays c = true
    · rw [if_pos hstays, lead_of_stays (by simp [hstays]; rfl)]
      exact .inl ⟨l, hsolid, rfl, rfl⟩
    by_cases hup : c = ".."
    · subst hup
      exact .inl ⟨l.dropLast, hsolid.dropLast, rfl, by cases links <;> rfl⟩
    · rw [if_neg hstays, if_neg hup]
      exact .inr (.inr ⟨l, links, c, by simp [Path.leadsOn, hstays, hup], rfl, rfl⟩)
  · have hunreadable : (before ++ [c]).all Path.isReadable = false := by simp [hreadable]
    refine .inr (.inl ⟨.invalidName, ?_, ?_⟩)
    · rw [locate, hunreadable, if_neg Bool.false_ne_true]
    · rw [locateDirectory, locate, List.all_append, hunreadable, Bool.false_and,
        if_neg Bool.false_ne_true]

theorem locateDirectory_of_locate {mode : Nat} (hl : f.locate components = .ok l)
    (hentry : f.get? l = some (.directory mode)) : f.locateDirectory components = .ok l := by
  rcases f.locate_cases components with ⟨l', -, hl', hdirectory⟩ | ⟨e, he, -⟩
    | ⟨l', links, c, hc, hl', hdirectory⟩
  · rw [hdirectory, ← hl', hl]
  · rw [he] at hl
    cases hl
  · obtain rfl : l' ++ [c] = l := Except.ok.inj (hl'.symm.trans hl)
    rw [hdirectory, lead_directory hc hentry]

theorem locateDirectory_of_error {e : FileError} (h : f.locate components = .error e) :
    f.locateDirectory components = .error e := by
  rcases f.locate_cases components with ⟨l, -, hl, -⟩ | ⟨e', he, hdirectory⟩
    | ⟨l, links, c, -, hl, -⟩
  · exact nomatch hl.symm.trans h
  · rw [hdirectory, ← he, h]
  · exact nomatch hl.symm.trans h

theorem Absent.locateDirectory (h : f.Absent components) :
    f.locateDirectory components = .error .notFound := by
  rcases h with herror | ⟨l, hl, hnone⟩
  · exact locateDirectory_of_error herror
  rcases f.locate_cases components with ⟨l', hsolid, hl', -⟩ | ⟨e, he, -⟩
    | ⟨l', links, c, hc, hl', hdirectory⟩
  · obtain rfl : l' = l := Except.ok.inj (hl'.symm.trans hl)
    obtain ⟨mode, hentry⟩ := hsolid l' List.prefix_rfl
    exact nomatch hentry.symm.trans hnone
  · exact nomatch he.symm.trans hl
  · obtain rfl : l' ++ [c] = l := Except.ok.inj (hl'.symm.trans hl)
    rw [hdirectory, lead_nothing hc hnone]

end

/-! ## Below a directory -/

/-- Whatever is not at the top is in a directory. -/
def Rooted (f : Files) : Prop :=
  ∀ l c, f.get? (l ++ [c]) ≠ none → ∃ mode, f.get? l = some (.directory mode)

/-- There is nothing below a location. -/
def Bare (f : Files) (l : Location) : Prop := ∀ l', l <+: l' → l' ≠ l → f.get? l' = none

section

variable {f : Files} {l : Location} {c : String}

theorem rooted_empty : Files.empty.Rooted := by
  intro l c hentry
  rw [get?, if_neg (by simp)] at hentry
  exact absurd rfl hentry

theorem Rooted.bare (h : f.Rooted) (hnone : f.get? l = none) : f.Bare l := by
  rintro l' ⟨rest, rfl⟩ -
  induction rest using List.reverseRecOn with
  | nil => rw [List.append_nil, hnone]
  | append_singleton rest c ih =>
    by_contra hentry
    rw [← List.append_assoc] at hentry
    obtain ⟨mode, hdirectory⟩ := h _ c hentry
    exact nomatch ih.symm.trans hdirectory

theorem Rooted.put (h : f.Rooted) {mode : Nat} (hdirectory : f.get? l = some (.directory mode))
    (hnone : f.get? (l ++ [c]) = none) (e : FileEntry) : (f.put (l ++ [c]) e).Rooted := by
  intro l' c' hentry
  have hplace : l ++ [c] ≠ [] := by simp
  have hput (l' : Location) := f.get?_put l' hplace e
  rw [hput] at hentry ⊢
  by_cases hl' : l' = l ++ [c]
  · -- below the new entry there is nothing
    have hne : l' ++ [c'] ≠ l ++ [c] := by
      rw [← hl']
      simp
    rw [if_neg hne, h.bare (hl' ▸ hnone) _ (List.prefix_append l' _) (by simp)] at hentry
    exact absurd rfl hentry
  · rw [if_neg hl']
    by_cases hnew : l' ++ [c'] = l ++ [c]
    · rw [(List.append_inj' hnew rfl).1]
      exact ⟨mode, hdirectory⟩
    · rw [if_neg hnew] at hentry
      exact h l' c' hentry

theorem Bare.put_directory (h : f.Bare l) (mode : Nat) : (f.put l (.directory mode)).Bare l := by
  intro l' hl' hne
  rw [f.get?_put_directory, if_neg hne, h l' hl' hne]

theorem Bare.enter (h : f.Bare l) (c : String) : f.Bare (l ++ [c]) := by
  intro l' hl' hne
  refine h l' ((List.prefix_append l [c]).trans hl') ?_
  rintro rfl
  exact absurd hl'.length_le (by simp)

/-! ## The place of a socket -/

variable {directory channel : String}

/-- The path of a socket leads to the entry of its name in the directory. -/
theorem locate_socket (hslash : '/' ∉ channel.toList)
    (hreadable : Path.isReadable channel = true) :
    f.locate (Path.components (Path.socket directory channel))
      = (f.locateDirectory (Path.components directory)).map (· ++ [channel ++ ".sock"]) := by
  obtain ⟨base, hsocket, hdirectory⟩ := Path.components_socket hslash directory
  have hbase : f.locateDirectory (Path.components directory) = f.locateDirectory base := by
    rcases hdirectory with hdirectory | hdirectory
    · rw [hdirectory]
    · rw [hdirectory, locateDirectory_append_stays rfl]
  rw [hsocket, hbase, locate_concat (Path.leadsOn_append_sock channel)
    ((Path.isReadable_append_sock channel).trans hreadable)]

theorem locate_socket_of_not_readable (hslash : '/' ∉ channel.toList)
    (hreadable : Path.isReadable channel = false) :
    f.locate (Path.components (Path.socket directory channel)) = .error .invalidName := by
  obtain ⟨base, hsocket, -⟩ := Path.components_socket hslash directory
  rw [hsocket, locate, List.all_append, List.all_cons, Path.isReadable_append_sock, hreadable]
  simp

end

end Files

end KeyBridge
