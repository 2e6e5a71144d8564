-- SUMMARY: Where paths lead, and what binding and releasing sockets change at each place.
import KeyBridge.Socket.Directory

/-!
# Places

A path leads to a place by way of directories and links, so it goes on leading there as long as
these stay (`KeepsWays.locate`). Binding a socket puts it at the end of its path and makes
directories (`bindSocket_ok`); releasing one takes away what stands at the end of its path, and
nothing else (`files_releaseSocket`).
-/

namespace KeyBridge

/-! ## Entries -/

/-- Whether an entry is a directory. -/
def FileEntry.isDirectory : FileEntry → Bool
  | .directory _ => true
  | _ => false

namespace Files

section

variable (f : Files) (l l' : Location)

theorem get?_top : f.get? [] = some (.directory f.topMode) := if_pos rfl

theorem ne_nil_of_get? {f : Files} {l : Location}
    (h : f.get? l = none ∨ ∃ listener, f.get? l = some (.socket listener)) : l ≠ [] := by
  rintro rfl
  rw [get?_top] at h
  rcases h with hnone | ⟨listener, hsocket⟩
  · cases hnone
  · cases hsocket

theorem lookup_filter (keep : Location → Bool) (entries : List (Location × FileEntry)) :
    (entries.filter fun e => keep e.1).lookup l = if keep l then entries.lookup l else none := by
  induction entries with
  | nil => simp
  | cons e entries ih =>
    obtain ⟨at', entry⟩ := e
    rw [List.filter_cons]
    by_cases hat : l = at'
    · subst hat
      cases hkeep : keep l <;> simp [hkeep, ih]
    · have hne : (l == at') = false := by simpa using hat
      cases hkeep : keep at' <;> simp [ih, List.lookup_cons, hne]

theorem lookup_erase :
    (f.erase l).entries.lookup l' = if l' = l then none else f.entries.lookup l' := by
  rw [erase, lookup_filter l' (fun at' => at' ≠ l)]
  by_cases hat : l' = l <;> simp [hat]

theorem get?_erase {l : Location} (hl : l ≠ []) :
    (f.erase l).get? l' = if l' = l then none else f.get? l' := by
  by_cases htop : l' = []
  · subst htop
    have hmode : (f.erase l).topMode = f.topMode := by
      rw [topMode, lookup_erase, if_neg (Ne.symm hl)]
      rfl
    rw [get?_top, get?_top, hmode, if_neg (Ne.symm hl)]
  · rw [get?, if_neg htop, get?, if_neg htop, lookup_erase]

theorem lookup_put (e : FileEntry) :
    (f.put l e).entries.lookup l' = if l' = l then some e else f.entries.lookup l' := by
  rw [put, List.lookup_cons]
  by_cases hat : l' = l
  · simp [hat]
  · have hne : (l' == l) = false := by simpa using hat
    simp [hne, hat, lookup_erase]

theorem get?_put {l : Location} (hl : l ≠ []) (e : FileEntry) :
    (f.put l e).get? l' = if l' = l then some e else f.get? l' := by
  by_cases htop : l' = []
  · subst htop
    have hmode : (f.put l e).topMode = f.topMode := by
      rw [topMode, lookup_put, if_neg (Ne.symm hl)]
      rfl
    rw [get?_top, get?_top, hmode, if_neg (Ne.symm hl)]
  · rw [get?, if_neg htop, get?, if_neg htop, lookup_put]

/-- A directory may be put at the top as well. -/
theorem get?_put_directory (mode : Nat) : (f.put l (.directory mode)).get? l'
    = if l' = l then some (.directory mode) else f.get? l' := by
  by_cases hl : l = []
  · subst hl
    by_cases htop : l' = []
    · subst htop
      have hmode : (f.put [] (.directory mode)).topMode = mode := by
        rw [topMode, lookup_put, if_pos rfl]
      rw [get?_top, hmode, if_pos rfl]
    · rw [get?, if_neg htop, lookup_put, if_neg htop, get?, if_neg htop, if_neg htop]
  · exact f.get?_put l' hl _

end

/-! ## Ways -/

/-- Directories are still directories, and links are still links to the same paths. -/
structure KeepsWays (f f' : Files) : Prop where
  directories : ∀ l mode, f.get? l = some (.directory mode) →
    ∃ mode', f'.get? l = some (.directory mode')
  links : ∀ l target, f.get? l = some (.link target) → f'.get? l = some (.link target)

section

variable {f f' f'' : Files} {l : Location}

theorem KeepsWays.trans (h : f.KeepsWays f') (h' : f'.KeepsWays f'') : f.KeepsWays f'' := by
  refine ⟨fun l mode hl => ?_, fun l target hl => h'.links l target (h.links l target hl)⟩
  obtain ⟨mode', hl'⟩ := h.directories l mode hl
  exact h'.directories l mode' hl'

/-- What is neither a directory nor a link may come and go. -/
theorem KeepsWays.of_other (hother : ∀ l', l' ≠ l → f'.get? l' = f.get? l')
    (hdirectory : ∀ mode, f.get? l ≠ some (.directory mode))
    (hlink : ∀ target, f.get? l ≠ some (.link target)) : f.KeepsWays f' := by
  constructor
  · intro l' mode hl'
    have hne : l' ≠ l := by
      rintro rfl
      exact hdirectory mode hl'
    exact ⟨mode, (hother l' hne).trans hl'⟩
  · intro l' target hl'
    have hne : l' ≠ l := by
      rintro rfl
      exact hlink target hl'
    exact (hother l' hne).trans hl'

theorem KeepsWays.leadWith (h : f.KeepsWays f')
    {follow follow' : Location → List String → Except FileError Location}
    (hfollow : ∀ here components, follow here components = .ok l →
      follow' here components = .ok l) (components : List String) (here : Location) :
    f.leadWith follow here components = .ok l → f'.leadWith follow' here components = .ok l := by
  induction components generalizing here with
  | nil => exact id
  | cons c rest ih =>
    rw [Files.leadWith, Files.leadWith]
    split
    · exact ih here
    split
    · exact ih here.dropLast
    split
    · exact id
    · intro hlead
      split at hlead
      · rename_i mode hentry
        obtain ⟨mode', hentry'⟩ := h.directories _ mode hentry
        rw [hentry']
        exact ih _ hlead
      · rename_i target hentry
        rw [h.links _ target hentry]
        exact hfollow _ _ hlead
      · cases hlead
      · cases hlead

theorem KeepsWays.lead (h : f.KeepsWays f') (links : Nat) (here : Location)
    (components : List String) :
    f.lead links here components = .ok l → f'.lead links here components = .ok l := by
  induction links generalizing here components with
  | zero => exact h.leadWith (fun _ _ herror => by cases herror) components here
  | succ links ih => exact h.leadWith ih components here

theorem locate_eq_ok_iff {components : List String} : f.locate components = .ok l
    ↔ components.all Path.isReadable = true ∧ f.lead maxLinks [] components = .ok l := by
  rw [locate]
  split <;> simp [*]

/-- A path still leads where it led. -/
theorem KeepsWays.locate (h : f.KeepsWays f') {components : List String}
    (hl : f.locate components = .ok l) : f'.locate components = .ok l := by
  obtain ⟨hreadable, hlead⟩ := locate_eq_ok_iff.1 hl
  exact locate_eq_ok_iff.2 ⟨hreadable, h.lead maxLinks [] components hlead⟩

/-! ## Directories -/

/-- A location with directories all the way from the top, itself included. -/
def Solid (f : Files) (l : Location) : Prop :=
  ∀ l', l' <+: l → ∃ mode, f.get? l' = some (.directory mode)

theorem solid_top (f : Files) : f.Solid [] := by
  intro l' hl'
  rw [List.prefix_nil.1 hl']
  exact ⟨_, f.get?_top⟩

theorem Solid.dropLast (h : f.Solid l) : f.Solid l.dropLast :=
  fun l' hl' => h l' (hl'.trans (List.dropLast_prefix l))

theorem Solid.enter (h : f.Solid l) {c : String} {mode : Nat}
    (hc : f.get? (l ++ [c]) = some (.directory mode)) : f.Solid (l ++ [c]) := by
  intro l' hl'
  rcases List.prefix_concat_iff.1 hl' with rfl | hl'
  · exact ⟨mode, hc⟩
  · exact h l' hl'

theorem solid_of_leadWith {follow : Location → List String → Except FileError Location}
    (hfollow : ∀ here components, f.Solid here → follow here (components ++ ["."]) = .ok l →
      f.Solid l) (components : List String) {here : Location} (hhere : f.Solid here)
    (hl : f.leadWith follow here (components ++ ["."]) = .ok l) : f.Solid l := by
  induction components generalizing here with
  | nil =>
    cases hl
    exact hhere
  | cons c rest ih =>
    rw [List.cons_append, Files.leadWith] at hl
    split at hl
    · exact ih hhere hl
    split at hl
    · exact ih hhere.dropLast hl
    split at hl
    · rename_i hend
      exact absurd hend (by simp)
    split at hl
    · rename_i mode hentry
      exact ih (hhere.enter hentry) hl
    · rename_i target hentry
      rw [← List.append_assoc] at hl
      refine hfollow _ _ ?_ hl
      split
      · exact f.solid_top
      · exact hhere
    · cases hl
    · cases hl

theorem solid_of_lead (links : Nat) (components : List String) {here : Location}
    (hhere : f.Solid here) (hl : f.lead links here (components ++ ["."]) = .ok l) : f.Solid l := by
  induction links generalizing here components with
  | zero => exact solid_of_leadWith (fun _ _ _ herror => by cases herror) components hhere hl
  | succ links ih => exact solid_of_leadWith (fun _ cs h => ih cs h) components hhere hl

theorem directory_of_locateDirectory {components : List String}
    (hl : f.locateDirectory components = .ok l) : ∃ mode, f.get? l = some (.directory mode) :=
  solid_of_lead maxLinks components f.solid_top (locate_eq_ok_iff.1 hl).2 l List.prefix_rfl

/-- Every entry is as it was, or a directory where nothing or a directory was. -/
def Furnishes (f f' : Files) : Prop :=
  ∀ l, f'.get? l = f.get? l
    ∨ ((f.get? l = none ∨ ∃ mode, f.get? l = some (.directory mode))
      ∧ ∃ mode, f'.get? l = some (.directory mode))

theorem Furnishes.refl (f : Files) : f.Furnishes f := fun _ => .inl rfl

theorem Furnishes.trans (h : f.Furnishes f') (h' : f'.Furnishes f'') : f.Furnishes f'' := by
  intro l
  rcases h l with heq | ⟨hfree, hnow⟩ <;> rcases h' l with heq' | ⟨hfree', hnow'⟩
  · exact .inl (heq'.trans heq)
  · exact .inr ⟨heq ▸ hfree', hnow'⟩
  · exact .inr ⟨hfree, heq' ▸ hnow⟩
  · exact .inr ⟨hfree, hnow'⟩

theorem Furnishes.keepsWays (h : f.Furnishes f') : f.KeepsWays f' := by
  constructor
  · intro l mode hl
    rcases h l with heq | ⟨-, hnow⟩
    · exact ⟨mode, heq.trans hl⟩
    · exact hnow
  · intro l target hl
    rcases h l with heq | ⟨hfree, -⟩
    · exact heq.trans hl
    · rcases hfree with hnone | ⟨mode, hdirectory⟩
      · rw [hnone] at hl
        cases hl
      · rw [hdirectory] at hl
        cases hl

theorem furnishes_put {mode : Nat}
    (hl : f.get? l = none ∨ ∃ mode, f.get? l = some (.directory mode)) :
    f.Furnishes (f.put l (.directory mode)) := by
  intro l'
  rw [f.get?_put_directory l l']
  by_cases hat : l' = l
  · rw [if_pos hat, hat]
    exact .inr ⟨hl, mode, rfl⟩
  · exact .inl (if_neg hat)

theorem add_ok {components : List String} {e : FileEntry} (h : f.add components e = .ok f') :
    ∃ l, f.locate components = .ok l ∧ f.get? l = none ∧ f' = f.put l e := by
  unfold add at h
  cases hl : f.locate components with
  | error error =>
    rw [hl] at h
    cases h
  | ok l =>
    have hadd : (if (f.get? l).isSome then Except.error FileError.exists else .ok (f.put l e))
        = .ok f' := by
      rw [hl] at h
      exact h
    split at hadd
    · cases hadd
    · rename_i hnone
      exact ⟨l, rfl, by simpa using hnone, (Except.ok.inj hadd).symm⟩

theorem add_of_free {components : List String} (hl : f.locate components = .ok l)
    (hnone : f.get? l = none) (e : FileEntry) : f.add components e = .ok (f.put l e) := by
  unfold add
  rw [hl]
  simp only [bind, Except.bind, hnone]
  rfl

theorem furnishes_makeDirectory {components : List String} {mode : Nat}
    (h : f.makeDirectory components mode = .ok f') : f.Furnishes f' := by
  obtain ⟨l, -, hnone, rfl⟩ := add_ok h
  exact furnishes_put (.inl hnone)

theorem furnishes_ensureDirectory {components : List String} {mode : Nat}
    (h : ensureDirectory mode f components = .ok f') : f.Furnishes f' := by
  unfold ensureDirectory at h
  split at h
  · rename_i hmade
    cases h
    exact furnishes_makeDirectory hmade
  · split at h
    · cases h
      exact .refl f
    · cases h

theorem furnishes_ensureDirectories (mode : Nat) (paths : List (List String)) (f : Files) :
    f.Furnishes (ensureDirectories mode f paths).2 := by
  induction paths generalizing f with
  | nil => exact .refl f
  | cons p rest ih =>
    unfold ensureDirectories
    split
    · rename_i hmade
      exact (furnishes_ensureDirectory hmade).trans (ih _)
    · exact .refl f

theorem furnishes_setMode {components : List String} {mode : Nat}
    (h : f.setMode components mode = .ok f') : f.Furnishes f' := by
  unfold setMode at h
  cases hl : f.locateDirectory components with
  | error error =>
    rw [hl] at h
    cases h
  | ok l =>
    have hput : Except.ok (f.put l (.directory mode)) = Except.ok (ε := FileError) f' := by
      rw [hl] at h
      exact h
    cases hput
    exact furnishes_put (.inr (directory_of_locateDirectory hl))

theorem furnishes_makePrivateDirectory (f : Files) (path : String) :
    f.Furnishes (f.makePrivateDirectory path).2 := by
  have hmade := furnishes_ensureDirectories sharedMode
    (ancestors (Path.components path) ++ [Path.components path]) f
  unfold makePrivateDirectory makeDirectories
  split
  · rename_i heq
    rw [heq] at hmade
    exact hmade
  · rename_i heq
    rw [heq] at hmade
    split
    · exact hmade
    · rename_i hset
      exact hmade.trans (furnishes_setMode hset)

theorem furnishes_ensurePrivate (f : Files) (path : String) :
    f.Furnishes (f.ensurePrivate path).2 := by
  unfold ensurePrivate
  split
  · exact .refl f
  split
  · exact f.furnishes_makePrivateDirectory path
  · exact .refl f
  · exact .refl f
  · exact .refl f

/-! ## Sockets -/

/-- The place to which a path leads, if it leads anywhere. -/
def place? (f : Files) (path : String) : Option Location :=
  (f.locate (Path.components path)).toOption

theorem place?_eq_some_iff {path : String} :
    f.place? path = some l ↔ f.locate (Path.components path) = .ok l := by
  rw [place?]
  cases f.locate (Path.components path) <;> simp [Except.toOption]

theorem KeepsWays.place? (h : f.KeepsWays f') {path : String} (hl : f.place? path = some l) :
    f'.place? path = some l :=
  place?_eq_some_iff.2 (h.locate (place?_eq_some_iff.1 hl))

/-- What stands at a place, directories apart. -/
def standing? (f : Files) (l : Location) : Option FileEntry :=
  (f.get? l).filter fun e => !e.isDirectory

theorem standing?_eq_some_iff {e : FileEntry} :
    f.standing? l = some e ↔ f.get? l = some e ∧ e.isDirectory = false := by
  simp [standing?, Option.filter_eq_some_iff]

theorem standing?_top (f : Files) : f.standing? [] = none := by
  rw [standing?, get?_top]
  rfl

/-- Directories that are made take nobody's place. -/
theorem Furnishes.standing? (h : f.Furnishes f') (l : Location) :
    f'.standing? l = f.standing? l := by
  rw [Files.standing?, Files.standing?]
  rcases h l with heq | ⟨hnone | ⟨mode, hbefore⟩, mode', hnow⟩
  · rw [heq]
  · rw [hnone, hnow]
    rfl
  · rw [hbefore, hnow]
    rfl

theorem remove_eq (f : Files) (path : String) :
    f.remove path = match f.locate (Path.components path) with
      | .error e => .error e
      | .ok l =>
        match f.get? l with
        | none => .error .notFound
        | some (.directory _) => .error .isDirectory
        | some _ => .ok (f.erase l) := by
  unfold remove
  cases f.locate (Path.components path) <;> rfl

/-- Releasing a socket takes away what stands at the end of its path, whatever it is. -/
theorem files_releaseSocket (f : Files) (path : String) : (f.releaseSocket path).2
    = match f.place? path with
      | some l => if (f.standing? l).isSome then f.erase l else f
      | none => f := by
  rw [releaseSocket, remove_eq, place?]
  rcases f.locate (Path.components path) with error | l
  · cases error <;> rfl
  · dsimp only [Except.toOption]
    rw [standing?]
    rcases f.get? l with _ | ⟨_ | _ | _ | _⟩ <;> rfl

theorem look_eq (f : Files) (path : String) :
    f.look path = match f.locate (Path.components path) with
      | .error e => .error e
      | .ok l =>
        match f.get? l with
        | some e => .ok e
        | none => .error .notFound := by
  unfold look
  cases f.locate (Path.components path) <;> rfl

/-- At the place of a new socket there is nothing, or a socket, which goes. -/
theorem clearSocket_ok {path : String} (h : f.clearSocket path = .ok f') :
    (f' = f ∧ ∀ l, f.locate (Path.components path) = .ok l → f.get? l = none)
      ∨ ∃ l listener, f.locate (Path.components path) = .ok l
        ∧ f.get? l = some (.socket listener) ∧ f' = f.erase l := by
  rw [clearSocket, look_eq, remove_eq] at h
  cases hl : f.locate (Path.components path) with
  | error e =>
    rw [hl] at h
    cases e with
    | notFound =>
      cases h
      exact .inl ⟨rfl, nofun⟩
    | _ => cases h
  | ok l =>
    simp only [hl] at h
    cases he : f.get? l with
    | none =>
      rw [he] at h
      cases h
      refine .inl ⟨rfl, fun l' hl' => ?_⟩
      cases hl'
      exact he
    | some e =>
      rw [he] at h
      cases e with
      | socket listener =>
        cases h
        exact .inr ⟨l, listener, rfl, he, rfl⟩
      | _ => cases h

theorem addSocket_ok {path : String} {listener : ListenerId}
    (h : f.addSocket path listener = .ok f') :
    ∃ l, f.locate (Path.components path) = .ok l ∧ f.get? l = none
      ∧ f' = f.put l (.socket listener) := by
  unfold addSocket at h
  split at h
  · cases h
  · exact add_ok h

theorem addSocket_of_free {path : String} (hl : f.locate (Path.components path) = .ok l)
    (hnone : f.get? l = none) (listener : ListenerId) :
    f.addSocket path listener = .ok (f.put l (.socket listener)) := by
  rw [addSocket, add_of_free hl hnone]

section

variable (hfree : f.get? l = none ∨ ∃ listener, f.get? l = some (.socket listener))
include hfree

/-- Ways stay if nothing is changed but a place where nothing or a socket stood. -/
theorem KeepsWays.of_free (hother : ∀ l', l' ≠ l → f'.get? l' = f.get? l') : f.KeepsWays f' := by
  refine .of_other hother (fun mode hmode => ?_) fun target htarget => ?_
  · rcases hfree with hnone | ⟨listener, hsocket⟩
    · exact nomatch hnone.symm.trans hmode
    · exact nomatch hsocket.symm.trans hmode
  · rcases hfree with hnone | ⟨listener, hsocket⟩
    · exact nomatch hnone.symm.trans htarget
    · exact nomatch hsocket.symm.trans htarget

theorem keepsWays_erase : f.KeepsWays (f.erase l) := by
  refine .of_free hfree fun l' hne => ?_
  rw [f.get?_erase l' (ne_nil_of_get? hfree), if_neg hne]

theorem keepsWays_put (listener : ListenerId) : f.KeepsWays (f.put l (.socket listener)) := by
  refine .of_free hfree fun l' hne => ?_
  rw [f.get?_put l' (ne_nil_of_get? hfree), if_neg hne]

end

/-- A socket that is bound stands at the end of its path, where nothing or a socket was. Apart from
that, there may be new directories. -/
theorem bindSocket_ok {directory channel path : String} {listener : ListenerId}
    (h : f.bindSocket directory channel listener = (.ok path, f')) :
    path = Path.socket directory channel ∧ ∃ l furnished, f.Furnishes furnished
      ∧ (furnished.get? l = none ∨ ∃ old, furnished.get? l = some (.socket old))
      ∧ f'.place? path = some l
      ∧ ∀ l', f'.get? l' = if l' = l then some (.socket listener) else furnished.get? l' := by
  have hfurnished := f.furnishes_ensurePrivate directory
  unfold bindSocket at h
  dsimp only at h
  split at h
  · cases h
  rename_i furnished hensured
  rw [hensured] at hfurnished
  split at h
  · cases h
  rename_i cleared hcleared
  split at h
  · cases h
  rename_i bound hbound
  cases h
  obtain ⟨l, hl, hnone, rfl⟩ := addSocket_ok hbound
  have hput (l' : Location) :=
    cleared.get?_put l' (ne_nil_of_get? (.inl hnone)) (.socket listener)
  have hbound := (keepsWays_put (.inl hnone) listener).place? (place?_eq_some_iff.2 hl)
  refine ⟨rfl, l, furnished, hfurnished, ?_⟩
  rcases clearSocket_ok hcleared with ⟨rfl, -⟩ | ⟨old, id, hold, hsocket, rfl⟩
  · exact ⟨.inl hnone, hbound, hput⟩
  · have hkept := (keepsWays_erase (.inr ⟨id, hsocket⟩)).locate hold
    obtain rfl : old = l := Except.ok.inj (hkept.symm.trans hl)
    refine ⟨.inr ⟨id, hsocket⟩, hbound, fun l' => ?_⟩
    rw [hput, furnished.get?_erase l' (ne_nil_of_get? (.inr ⟨id, hsocket⟩))]
    split <;> rfl

/-- When a socket cannot be bound there may be new directories, and all else is as it was. -/
theorem bindSocket_error {directory channel : String} {listener : ListenerId} {error : SocketError}
    (h : f.bindSocket directory channel listener = (.error error, f')) : f.Furnishes f' := by
  have hfurnished := f.furnishes_ensurePrivate directory
  unfold bindSocket at h
  dsimp only at h
  split at h
  · rename_i hensured
    cases h
    rw [hensured] at hfurnished
    exact hfurnished
  rename_i furnished hensured
  rw [hensured] at hfurnished
  split at h
  · cases h
    exact hfurnished
  rename_i cleared hcleared
  split at h
  · rename_i hbound
    cases h
    rcases clearSocket_ok hcleared with ⟨rfl, -⟩ | ⟨old, id, hold, hsocket, rfl⟩
    · exact hfurnished
    · -- the place of a socket that was removed is free for the new one
      have hplace : old ≠ [] := ne_nil_of_get? (.inr ⟨id, hsocket⟩)
      have hfree : (furnished.erase old).get? old = none := by
        rw [furnished.get?_erase old hplace, if_pos rfl]
      have hkept := (keepsWays_erase (.inr ⟨id, hsocket⟩)).locate hold
      rw [addSocket_of_free hkept hfree listener] at hbound
      cases hbound
  · cases h

/-- A path that leads to a socket reaches its listener. -/
theorem listener_of_standing? {path : String} {listener : ListenerId} (hl : f.place? path = some l)
    (hsocket : f.standing? l = some (.socket listener)) : f.listener path = .ok listener := by
  obtain ⟨hreadable, hl⟩ := locate_eq_ok_iff.1 (place?_eq_some_iff.1 hl)
  have hsocket := (standing?_eq_some_iff.1 hsocket).1
  have hreach : f.reach path = .ok (.socket listener) := by
    rw [reach, if_pos hreadable]
    unfold maxLinks reachFrom reachWith
    rw [hl]
    simp only [bind, Except.bind, hsocket]
  rw [Files.listener, hreach]
  rfl

end

end Files

end KeyBridge
