-- SUMMARY: The guards before a socket is bound, and the files as each of them leaves them.
import KeyBridge.Proofs.Ways
import Mathlib.Data.List.TakeWhile

/-!
# Guards

Before a socket is bound, its directory is let through (`Opens`) or not (`Bars`), which comes down
to the directories that are made on the way to it (`Paved`) and to what they may run into
(`Obstructed`). Then its place has to be free (`Vacant`), or the bind is refused after all
(`Refuses`). These say what each guard asks of the files; `bindSocket_of_opens` and
`bindSocket_of_refused` say that binding does just that, and `vacant_or_refuses` that nothing is
left out.
-/

namespace KeyBridge

namespace Files

section

variable {f f' made : Files} {l : Location} {p : List String} {paths : List (List String)}

/-! ## Making directories -/

theorem exists_slashes (components : List String) : ∃ slashes,
    components = withoutSlashes components ++ slashes ∧ slashes.all Path.stays = true := by
  refine ⟨(components.reverse.takeWhile (· = "")).reverse, ?_, ?_⟩
  · rw [withoutSlashes, ← List.reverse_append, List.takeWhile_append_dropWhile,
      List.reverse_reverse]
  · rw [List.all_reverse, List.all_eq_true]
    intro c hc
    have hempty : c = "" := by simpa using List.mem_takeWhile_imp hc
    rw [hempty]
    rfl

theorem locateDirectory_withoutSlashes (f : Files) (components : List String) :
    f.locateDirectory (withoutSlashes components) = f.locateDirectory components := by
  obtain ⟨slashes, hslashes, hstays⟩ := exists_slashes components
  rw [hslashes, locateDirectory_append_stays hstays, ← hslashes]

/-- A directory that is made is found at the end of its way. -/
theorem locateDirectory_put (hl : f.locate (withoutSlashes p) = .ok l) (hnone : f.get? l = none)
    (mode : Nat) : (f.put l (.directory mode)).locateDirectory p = .ok l := by
  have hentry : (f.put l (.directory mode)).get? l = some (.directory mode) := by
    rw [f.get?_put_directory, if_pos rfl]
  rw [← locateDirectory_withoutSlashes]
  exact locateDirectory_of_locate ((furnishes_put (.inl hnone)).keepsWays.locate hl) hentry

/-- No directory can be made at the end of a way: the way leads nowhere, or to something else. -/
inductive Obstructed (f : Files) (p : List String) : FileError → Prop
  | way {error : FileError} (h : f.locate (withoutSlashes p) = .error error) : Obstructed f p error
  | entry {l : Location} {e : FileEntry} {error : FileError}
      (hl : f.locate (withoutSlashes p) = .ok l) (he : f.get? l = some e)
      (hdirectory : f.locateDirectory p = .error error) : Obstructed f p .exists

theorem makeDirectory_eq (f : Files) (p : List String) (mode : Nat) :
    f.makeDirectory p mode = match f.locate (withoutSlashes p) with
      | .error e => .error e
      | .ok l => if (f.get? l).isSome then .error .exists else .ok (f.put l (.directory mode)) := by
  unfold makeDirectory add
  cases f.locate (withoutSlashes p) <;> rfl

theorem ensureDirectory_of_found (hp : f.locateDirectory p = .ok l) (mode : Nat) :
    ensureDirectory mode f p = .ok f := by
  unfold ensureDirectory
  have hnot (f' : Files) : f.makeDirectory p mode ≠ .ok f' := by
    intro hmade
    obtain ⟨l', hl', hnone, -⟩ := add_ok hmade
    have habsent : f.Absent (withoutSlashes p) := .inr ⟨l', hl', hnone⟩
    exact nomatch hp.symm.trans
      ((f.locateDirectory_withoutSlashes p).symm.trans habsent.locateDirectory)
  rcases hmake : f.makeDirectory p mode with e | f'
  · rw [hp]
    rfl
  · exact absurd hmake (hnot f')

theorem ensureDirectory_of_free (hl : f.locate (withoutSlashes p) = .ok l)
    (hnone : f.get? l = none) (mode : Nat) :
    ensureDirectory mode f p = .ok (f.put l (.directory mode)) := by
  rw [ensureDirectory, makeDirectory, add_of_free hl hnone]

theorem ensureDirectory_of_obstructed {error : FileError} (h : f.Obstructed p error)
    (mode : Nat) : ensureDirectory mode f p = .error error := by
  rw [ensureDirectory, makeDirectory_eq]
  cases h with
  | way hway =>
    have hdirectory : f.locateDirectory p = .error error := by
      rw [← locateDirectory_withoutSlashes]
      exact locateDirectory_of_error hway
    simp only [hway, hdirectory]
    rfl
  | entry hl he hdirectory =>
    simp only [hl, he, hdirectory]
    rfl

/-- A directory is found, is made, or cannot be made. -/
theorem directory_cases (f : Files) (p : List String) :
    (∃ l, f.locateDirectory p = .ok l)
      ∨ (∃ l, f.locate (withoutSlashes p) = .ok l ∧ f.get? l = none)
      ∨ ∃ error, f.Obstructed p error := by
  rcases hdirectory : f.locateDirectory p with error | l
  · rcases hl : f.locate (withoutSlashes p) with error | l
    · exact .inr (.inr ⟨error, .way hl⟩)
    · rcases he : f.get? l with _ | e
      · exact .inr (.inl ⟨l, rfl, he⟩)
      · exact .inr (.inr ⟨.exists, .entry hl he hdirectory⟩)
  · exact .inl ⟨l, rfl⟩

/-- Directories are at the ends of ways, those that were missing having been made in order. -/
inductive Paved : Files → List (List String) → Files → Prop
  | done {f : Files} : Paved f [] f
  | found {f f' : Files} {p : List String} {rest : List (List String)} {l : Location}
      (hp : f.locateDirectory p = .ok l) (hrest : Paved f rest f') : Paved f (p :: rest) f'
  | made {f f' : Files} {p : List String} {rest : List (List String)} {l : Location}
      (hl : f.locate (withoutSlashes p) = .ok l) (hnone : f.get? l = none)
      (hrest : Paved (f.put l (.directory sharedMode)) rest f') : Paved f (p :: rest) f'

theorem ensureDirectories_cons (h : ensureDirectory sharedMode f p = .ok f') :
    ensureDirectories sharedMode f (p :: paths) = ensureDirectories sharedMode f' paths := by
  rw [ensureDirectories, h]

theorem Paved.ensureDirectories_append (h : f.Paved paths f') (more : List (List String)) :
    ensureDirectories sharedMode f (paths ++ more) = ensureDirectories sharedMode f' more := by
  induction h with
  | done => rfl
  | found hp hrest ih => exact (ensureDirectories_cons (ensureDirectory_of_found hp _)).trans ih
  | made hl hnone hrest ih =>
    exact (ensureDirectories_cons (ensureDirectory_of_free hl hnone _)).trans ih

theorem Paved.append (h : f.Paved paths made) {more : List (List String)}
    (hmore : made.Paved more f') : f.Paved (paths ++ more) f' := by
  induction h with
  | done => exact hmore
  | found hp hrest ih => exact .found hp (ih hmore)
  | made hl hnone hrest ih => exact .made hl hnone (ih hmore)

theorem Paved.ensureDirectories (h : f.Paved paths f') :
    ensureDirectories sharedMode f paths = (.ok (), f') := by
  rw [← paths.append_nil, h.ensureDirectories_append, Files.ensureDirectories]

theorem Paved.furnishes (h : f.Paved paths f') : f.Furnishes f' := by
  have hfurnishes := furnishes_ensureDirectories sharedMode paths f
  rwa [h.ensureDirectories] at hfurnishes

/-- At the ends of ways there are directories then. -/
theorem Paved.locateDirectory (h : f.Paved paths f') :
    ∀ p ∈ paths, ∃ l, f'.locateDirectory p = .ok l := by
  induction h with
  | done => exact nofun
  | found hp hrest ih =>
    rw [List.forall_mem_cons]
    exact ⟨⟨_, hrest.furnishes.keepsWays.locate hp⟩, ih⟩
  | made hl hnone hrest ih =>
    rw [List.forall_mem_cons]
    exact ⟨⟨_, hrest.furnishes.keepsWays.locate (locateDirectory_put hl hnone _)⟩, ih⟩

/-- Only what is at the ends of the ways has changed. -/
theorem Paved.on_way (h : f.Paved paths f') (hchange : f'.get? l ≠ f.get? l) :
    ∃ p ∈ paths, f'.locateDirectory p = .ok l := by
  induction h with
  | done => exact absurd rfl hchange
  | found hp hrest ih =>
    obtain ⟨p', hp', hl'⟩ := ih hchange
    exact ⟨p', List.mem_cons_of_mem _ hp', hl'⟩
  | @made f f' p rest l' hl hnone hrest ih =>
    by_cases hnew : l = l'
    · subst hnew
      exact ⟨p, List.mem_cons_self,
        hrest.furnishes.keepsWays.locate (locateDirectory_put hl hnone _)⟩
    · rw [f.get?_put_directory, if_neg hnew] at ih
      obtain ⟨p', hp', hl'⟩ := ih hchange
      exact ⟨p', List.mem_cons_of_mem _ hp', hl'⟩

/-- Directories are made along all ways, or along those before the first where none can be. -/
theorem paved_or_obstructed (f : Files) (paths : List (List String)) :
    (∃ f', f.Paved paths f')
      ∨ ∃ before p after f' error, paths = before ++ p :: after ∧ f.Paved before f'
        ∧ f'.Obstructed p error := by
  induction paths generalizing f with
  | nil => exact .inl ⟨f, .done⟩
  | cons p rest ih =>
    rcases f.directory_cases p with ⟨l, hp⟩ | ⟨l, hl, hnone⟩ | ⟨error, hobstructed⟩
    · rcases ih f with ⟨f', hrest⟩ | ⟨before, p', after, f', error, rfl, hbefore, hobstructed⟩
      · exact .inl ⟨f', .found hp hrest⟩
      · exact .inr ⟨p :: before, p', after, f', error, rfl, .found hp hbefore, hobstructed⟩
    · rcases ih (f.put l (.directory sharedMode)) with
        ⟨f', hrest⟩ | ⟨before, p', after, f', error, rfl, hbefore, hobstructed⟩
      · exact .inl ⟨f', .made hl hnone hrest⟩
      · exact .inr ⟨p :: before, p', after, f', error, rfl, .made hl hnone hbefore, hobstructed⟩
    · exact .inr ⟨[], p, rest, f, error, rfl, .done, hobstructed⟩

theorem Paved.ensureDirectories_of_obstructed {before after : List (List String)}
    (h : f.Paved before f') {error : FileError} (hobstructed : f'.Obstructed p error) :
    Files.ensureDirectories sharedMode f (before ++ p :: after) = (.error error, f') := by
  rw [h.ensureDirectories_append, Files.ensureDirectories,
    ensureDirectory_of_obstructed hobstructed]

end

/-! ## The directory of sockets -/

/-- The ways along which directories are made for a directory of sockets, its own last. -/
def waysTo (directory : String) : List (List String) :=
  ancestors (Path.components directory) ++ [Path.components directory]

/-- The directory of sockets is let through: it was there and others have no permissions on it, or
it was not there and is made. -/
inductive Opens (f : Files) (directory : String) : Files → Prop
  | found {mode : Nat} (hdirectory : directory ≠ "")
      (hlook : f.look directory = .ok (.directory mode)) (hmode : mode % 0o100 = 0) :
      Opens f directory f
  | made {made : Files} {l : Location} (hdirectory : directory ≠ "")
      (hlook : f.look directory = .error .notFound) (hpaved : f.Paved (waysTo directory) made)
      (hl : made.locateDirectory (Path.components directory) = .ok l) :
      Opens f directory (made.put l (.directory privateMode))

/-- The directory of sockets is not let through, with the files as they are left. -/
inductive Bars (f : Files) (directory : String) : SocketError → Files → Prop
  | nowhere (hdirectory : directory = "") : Bars f directory (.files .notFound) f
  | unseen {error : FileError} (hdirectory : directory ≠ "")
      (hlook : f.look directory = .error error) (herror : error ≠ .notFound) :
      Bars f directory (.files error) f
  | obstructed {before after : List (List String)} {p : List String} {made : Files}
      {error : FileError} (hdirectory : directory ≠ "")
      (hlook : f.look directory = .error .notFound)
      (hways : waysTo directory = before ++ p :: after) (hpaved : f.Paved before made)
      (hobstructed : made.Obstructed p error) :
      Bars f directory (.files error) made
  | other {e : FileEntry} (hdirectory : directory ≠ "") (hlook : f.look directory = .ok e)
      (he : e.isDirectory = false) : Bars f directory (.noDirectory directory) f
  | accessible {mode : Nat} (hdirectory : directory ≠ "")
      (hlook : f.look directory = .ok (.directory mode)) (hmode : mode % 0o100 ≠ 0) :
      Bars f directory (.accessible directory mode) f

section

variable {f f' opened : Files} {directory channel : String} {l : Location} {error : SocketError}

theorem ensurePrivate_of_opens (h : f.Opens directory opened) :
    f.ensurePrivate directory = (.ok (), opened) := by
  cases h with
  | found hdirectory hlook hmode => simp [ensurePrivate, hdirectory, hlook, hmode]
  | made hdirectory hlook hpaved hl =>
    have hmade := hpaved.ensureDirectories
    rw [waysTo] at hmade
    simp [ensurePrivate, hdirectory, hlook, makePrivateDirectory, makeDirectories, hmade, setMode,
      hl, bind, Except.bind, Except.mapError]

theorem ensurePrivate_of_barred (h : f.Bars directory error f') :
    f.ensurePrivate directory = (.error error, f') := by
  cases h with
  | nowhere hdirectory => simp [ensurePrivate, hdirectory]
  | @unseen error hdirectory hlook herror =>
    cases error with
    | notFound => exact absurd rfl herror
    | _ => simp [ensurePrivate, hdirectory, hlook]
  | @obstructed before after p made error hdirectory hlook hways hpaved hobstructed =>
    have hmade : ensureDirectories sharedMode f (waysTo directory) = (.error error, f') := by
      rw [hways, hpaved.ensureDirectories_of_obstructed hobstructed]
    rw [waysTo] at hmade
    simp [ensurePrivate, hdirectory, hlook, makePrivateDirectory, makeDirectories, hmade,
      Except.mapError]
  | @other e hdirectory hlook he =>
    cases e with
    | directory => cases he
    | _ => simp [ensurePrivate, hdirectory, hlook]
  | accessible hdirectory hlook hmode => simp [ensurePrivate, hdirectory, hlook, hmode]

theorem opens_or_bars (f : Files) (directory : String) :
    (∃ opened, f.Opens directory opened) ∨ ∃ error f', f.Bars directory error f' := by
  by_cases hdirectory : directory = ""
  · exact .inr ⟨_, _, .nowhere hdirectory⟩
  rcases hlook : f.look directory with error | e
  · by_cases herror : error = .notFound
    · subst herror
      rcases f.paved_or_obstructed (waysTo directory) with
        ⟨made, hpaved⟩ | ⟨before, p, after, made, error, hways, hpaved, hobstructed⟩
      · obtain ⟨l, hl⟩ := hpaved.locateDirectory _
          (List.mem_append_right _ (List.mem_singleton_self _))
        exact .inl ⟨_, .made hdirectory hlook hpaved hl⟩
      · exact .inr ⟨_, _, .obstructed hdirectory hlook hways hpaved hobstructed⟩
    · exact .inr ⟨_, _, .unseen hdirectory hlook herror⟩
  · cases e with
    | directory mode =>
      by_cases hmode : mode % 0o100 = 0
      · exact .inl ⟨f, .found hdirectory hlook hmode⟩
      · exact .inr ⟨_, _, .accessible hdirectory hlook hmode⟩
    | _ => exact .inr ⟨_, _, .other hdirectory hlook rfl⟩

/-- A directory of sockets that is let through is private. -/
theorem Opens.spec (h : f.Opens directory opened) :
    ∃ l mode, opened.locateDirectory (Path.components directory) = .ok l
      ∧ opened.get? l = some (.directory mode) ∧ mode % 0o100 = 0
      ∧ (f.look directory = .error .notFound → mode = privateMode) := by
  cases h with
  | found hdirectory hlook hmode =>
    obtain ⟨l, hl, hentry⟩ := look_eq_ok_iff.1 hlook
    refine ⟨l, _, locateDirectory_of_locate hl hentry, hentry, hmode, fun habsent => ?_⟩
    cases hlook.symm.trans habsent
  | @made made l hdirectory hlook hpaved hl =>
    refine ⟨l, privateMode, ?_, ?_, rfl, fun _ => rfl⟩
    · exact (furnishes_put (.inr (directory_of_locateDirectory hl))).keepsWays.locate hl
    · rw [made.get?_put_directory, if_pos rfl]

/-- What the guard of a directory leaves behind: nothing has changed unless the directory was not
there, and then only directories on the way to it. -/
structure Leaves (f f' : Files) (directory : String) : Prop where
  furnishes : f.Furnishes f'
  found : f.look directory ≠ .error .notFound → f' = f
  onWay : ∀ l, f'.get? l ≠ f.get? l → ∃ p ∈ waysTo directory, f'.locateDirectory p = .ok l

theorem leaves_refl (f : Files) (directory : String) : f.Leaves f directory :=
  ⟨.refl f, fun _ => rfl, fun _ hchange => absurd rfl hchange⟩

theorem Opens.leaves (h : f.Opens directory opened) : f.Leaves opened directory := by
  cases h with
  | found => exact f.leaves_refl directory
  | @made made d hdirectory hlook hpaved hd =>
    have hput : made.Furnishes (made.put d (.directory privateMode)) :=
      furnishes_put (.inr (directory_of_locateDirectory hd))
    refine ⟨hpaved.furnishes.trans hput, fun hfound => absurd hlook hfound, fun l hchange => ?_⟩
    by_cases hl : l = d
    · exact ⟨_, List.mem_append_right _ (List.mem_singleton_self _),
        hl ▸ hput.keepsWays.locate hd⟩
    · rw [made.get?_put_directory, if_neg hl] at hchange
      obtain ⟨p, hp, hlast⟩ := hpaved.on_way hchange
      exact ⟨p, hp, hput.keepsWays.locate hlast⟩

theorem Bars.leaves (h : f.Bars directory error f') : f.Leaves f' directory := by
  cases h with
  | obstructed hdirectory hlook hways hpaved hobstructed =>
    refine ⟨hpaved.furnishes, fun hfound => absurd hlook hfound, fun l hchange => ?_⟩
    obtain ⟨p, hp, hl⟩ := hpaved.on_way hchange
    exact ⟨p, hways ▸ List.mem_append_left _ hp, hl⟩
  | _ => exact f.leaves_refl directory

/-! ## The place of the socket -/

/-- In the place of a socket there is nothing, or an earlier socket. -/
def Vacant (f : Files) (path : String) : Prop :=
  f.look path = .error .notFound ∨ ∃ listener, f.look path = .ok (.socket listener)

/-- A socket is not bound, with the files as they are left. -/
inductive Refuses (f : Files) (directory channel : String) : SocketError → Files → Prop
  | directory {error : SocketError} {f' : Files} (h : f.Bars directory error f') :
      Refuses f directory channel error f'
  | unseen {opened : Files} {error : FileError} (hopens : f.Opens directory opened)
      (hlook : opened.look (Path.socket directory channel) = .error error)
      (herror : error ≠ .notFound) : Refuses f directory channel (.files error) opened
  | occupied {opened : Files} {e : FileEntry} (hopens : f.Opens directory opened)
      (hlook : opened.look (Path.socket directory channel) = .ok e)
      (he : ∀ listener, e ≠ .socket listener) :
      Refuses f directory channel (.noSocket (Path.socket directory channel)) opened

theorem Refuses.leaves (h : f.Refuses directory channel error f') : f.Leaves f' directory := by
  cases h with
  | directory h => exact h.leaves
  | unseen hopens => exact hopens.leaves
  | occupied hopens => exact hopens.leaves

theorem bindSocket_of_refused (h : f.Refuses directory channel error f') (listener : ListenerId) :
    f.bindSocket directory channel listener = (.error error, f') := by
  cases h with
  | directory h => simp [bindSocket, ensurePrivate_of_barred h]
  | @unseen _ error hopens hlook herror =>
    cases error with
    | notFound => exact absurd rfl herror
    | _ => simp [bindSocket, ensurePrivate_of_opens hopens, clearSocket, hlook]
  | @occupied _ e hopens hlook he =>
    cases e with
    | socket listener => exact absurd rfl (he listener)
    | _ => simp [bindSocket, ensurePrivate_of_opens hopens, clearSocket, hlook]

theorem put_erase (f : Files) (l : Location) (e : FileEntry) : (f.erase l).put l e = f.put l e := by
  simp [put, erase, List.filter_filter]

/-- The socket is put where its path leads, and the earlier one is gone. -/
theorem bindSocket_of_vacant (hopens : f.Opens directory opened)
    (hl : opened.locate (Path.components (Path.socket directory channel)) = .ok l)
    (hvacant : opened.get? l = none ∨ ∃ old, opened.get? l = some (.socket old))
    (listener : ListenerId) : f.bindSocket directory channel listener
      = (.ok (Path.socket directory channel), opened.put l (.socket listener)) := by
  rcases hvacant with hnone | ⟨old, hsocket⟩
  · simp only [bindSocket, ensurePrivate_of_opens hopens, clearSocket,
      look_eq_notFound_iff.2 (.inr ⟨l, hl, hnone⟩), addSocket_of_free hl hnone]
  · have hlook := look_eq_ok_iff.2 ⟨l, hl, hsocket⟩
    have hremove : opened.remove (Path.socket directory channel) = .ok (opened.erase l) := by
      simp only [remove_eq, hl, hsocket]
    have hplace := ne_nil_of_get? (.inr ⟨old, hsocket⟩)
    have hfree : (opened.erase l).get? l = none := by
      rw [opened.get?_erase l hplace, if_pos rfl]
    have hkept := (keepsWays_erase (.inr ⟨old, hsocket⟩)).locate hl
    simp only [bindSocket, ensurePrivate_of_opens hopens, clearSocket, hlook, hremove,
      Except.mapError, addSocket_of_free hkept hfree, put_erase]

/-- What is in the place of the socket decides, once its directory is let through. -/
theorem vacant_iff (hl : f.locate (Path.components (Path.socket directory channel)) = .ok l) :
    f.Vacant (Path.socket directory channel)
      ↔ f.get? l = none ∨ ∃ old, f.get? l = some (.socket old) := by
  simp only [Vacant, look_eq, hl]
  rcases hentry : f.get? l with _ | e <;> simp

theorem readable_of_vacant (hslash : '/' ∉ channel.toList)
    (hvacant : f.Vacant (Path.socket directory channel)) : Path.isReadable channel = true := by
  by_contra hreadable
  have hlocate : f.locate (Path.components (Path.socket directory channel)) = .error .invalidName :=
    locate_socket_of_not_readable hslash (Bool.eq_false_iff.2 hreadable)
  simp [Vacant, look_eq, hlocate] at hvacant

/-- In an empty directory the place of a socket is free. -/
theorem vacant_of_bare (hslash : '/' ∉ channel.toList)
    (hreadable : Path.isReadable channel = true)
    (hl : f.locateDirectory (Path.components directory) = .ok l) (hbare : f.Bare l) :
    f.Vacant (Path.socket directory channel) := by
  have hnone : f.get? (l ++ [channel ++ ".sock"]) = none :=
    hbare _ (List.prefix_append l _) (by simp)
  refine .inl (look_eq_notFound_iff.2 (.inr ⟨_, ?_, hnone⟩))
  rw [locate_socket hslash hreadable, hl]
  rfl

theorem vacant_of_absent (hslash : '/' ∉ channel.toList)
    (hreadable : Path.isReadable channel = true)
    (hlook : f.look directory = .error .notFound) :
    f.Vacant (Path.socket directory channel) := by
  refine .inl (look_eq_notFound_iff.2 (.inl ?_))
  rw [locate_socket hslash hreadable, (look_eq_notFound_iff.1 hlook).locateDirectory]
  rfl

/-- Every bind is let through or refused. -/
theorem vacant_or_refuses (f : Files) (directory channel : String) :
    (∃ opened, f.Opens directory opened ∧ opened.Vacant (Path.socket directory channel))
      ∨ ∃ error f', f.Refuses directory channel error f' := by
  rcases f.opens_or_bars directory with ⟨opened, hopens⟩ | ⟨error, f', hbars⟩
  · rcases hlook : opened.look (Path.socket directory channel) with error | e
    · by_cases herror : error = .notFound
      · exact .inl ⟨opened, hopens, .inl (herror ▸ hlook)⟩
      · exact .inr ⟨_, _, .unseen hopens hlook herror⟩
    · cases e with
      | socket old => exact .inl ⟨opened, hopens, .inr ⟨old, hlook⟩⟩
      | _ => exact .inr ⟨_, _, .occupied hopens hlook nofun⟩
  · exact .inr ⟨error, f', .directory hbars⟩

theorem Opens.unique {opened' : Files} (h : f.Opens directory opened)
    (h' : f.Opens directory opened') : opened = opened' := by
  have heq := (ensurePrivate_of_opens h).symm.trans (ensurePrivate_of_opens h')
  exact (Prod.mk.inj heq).2

theorem Opens.not_bars (h : f.Opens directory opened) : ¬ f.Bars directory error f' := by
  intro hbars
  have heq := (ensurePrivate_of_opens h).symm.trans (ensurePrivate_of_barred hbars)
  cases heq

theorem Bars.unique {error' : SocketError} {f'' : Files} (h : f.Bars directory error f')
    (h' : f.Bars directory error' f'') : error = error' ∧ f' = f'' := by
  have heq := (ensurePrivate_of_barred h).symm.trans (ensurePrivate_of_barred h')
  exact ⟨Except.error.inj (Prod.mk.inj heq).1, (Prod.mk.inj heq).2⟩

/-- A bind that is let through puts its socket into the directory, under its own name. -/
theorem bindSocket_of_opens (hslash : '/' ∉ channel.toList) (hopens : f.Opens directory opened)
    (hvacant : opened.Vacant (Path.socket directory channel))
    (hl : opened.locateDirectory (Path.components directory) = .ok l) (listener : ListenerId) :
    opened.locate (Path.components (Path.socket directory channel))
        = .ok (l ++ [channel ++ ".sock"])
      ∧ (opened.get? (l ++ [channel ++ ".sock"]) = none
        ∨ ∃ old, opened.get? (l ++ [channel ++ ".sock"]) = some (.socket old))
      ∧ f.bindSocket directory channel listener = (.ok (Path.socket directory channel),
        opened.put (l ++ [channel ++ ".sock"]) (.socket listener)) := by
  have hplace : opened.locate (Path.components (Path.socket directory channel))
      = .ok (l ++ [channel ++ ".sock"]) := by
    rw [locate_socket hslash (readable_of_vacant hslash hvacant), hl]
    rfl
  have hfree := (vacant_iff hplace).1 hvacant
  exact ⟨hplace, hfree, bindSocket_of_vacant hopens hplace hfree listener⟩

end

end Files

end KeyBridge
