-- SUMMARY: When a socket is bound, and what a bind changes whether it succeeds or not.
import KeyBridge.Proofs.Straight

/-!
# Binds

A socket is bound exactly if its directory and its place are let through (`bind_guarded`). A bind
that fails has changed nothing, unless directories were made on the way to one that was not there:
those stay, as after a failure half way up a path that turns back (`failed_bind_leaves_directory`).
-/

namespace KeyBridge

namespace Files

/-- The directory of sockets was not there, and on the way to it a directory was made, or one that
was there got other permissions. -/
structure MadeOnWay (f f' : Files) (directory : String) (l : Location) : Prop where
  missing : f.look directory = .error .notFound
  before : f.get? l = none ∨ ∃ mode, f.get? l = some (.directory mode)
  after : ∃ mode, f'.get? l = some (.directory mode)
  onWay : ∃ p ∈ waysTo directory, f'.locateDirectory p = .ok l

/-- What a bind leaves behind that succeeds: a socket under its name in a private directory. All
else is as before, but for directories that were made on the way. -/
structure Bound (f f' : Files) (directory channel : String) (listener : ListenerId) (l : Location) :
    Prop where
  way : f'.locateDirectory (Path.components directory) = .ok l
  alone : ∃ mode, f'.get? l = some (.directory mode) ∧ mode % 0o100 = 0
    ∧ (f.look directory = .error .notFound → mode = 0o700)
  place : f'.place? (Path.socket directory channel) = some (l ++ [channel ++ ".sock"])
  socket : f'.get? (l ++ [channel ++ ".sock"]) = some (.socket listener)
  before : f.get? (l ++ [channel ++ ".sock"]) = none
    ∨ ∃ old, f.get? (l ++ [channel ++ ".sock"]) = some (.socket old)
  elsewhere : ∀ l', l' ≠ l ++ [channel ++ ".sock"] →
    f'.get? l' = f.get? l' ∨ f.MadeOnWay f' directory l'

section

variable {f f' opened : Files} {directory channel : String} {l : Location}

theorem Leaves.changes (h : f.Leaves f' directory) (l : Location) :
    f'.get? l = f.get? l ∨ f.MadeOnWay f' directory l := by
  by_cases hchange : f'.get? l = f.get? l
  · exact .inl hchange
  · have hmissing : f.look directory = .error .notFound := by
      by_contra hthere
      exact hchange (congrArg (·.get? l) (h.found hthere))
    obtain ⟨hbefore, hafter⟩ := (h.furnishes l).resolve_left hchange
    exact .inr ⟨hmissing, hbefore, hafter, h.onWay l hchange⟩

/-- The socket that is put elsewhere makes no difference to what was made on the way. -/
theorem MadeOnWay.kept (h : f.MadeOnWay opened directory l) (hkept : opened.KeepsWays f')
    (hsame : f'.get? l = opened.get? l) : f.MadeOnWay f' directory l := by
  obtain ⟨p, hp, hlast⟩ := h.onWay
  exact ⟨h.missing, h.before, hsame ▸ h.after, p, hp, hkept.locate hlast⟩

theorem Opens.bound (h : f.Opens directory opened) (hslash : '/' ∉ channel.toList)
    (hvacant : opened.Vacant (Path.socket directory channel)) (listener : ListenerId) :
    ∃ f' l, f.bindSocket directory channel listener = (.ok (Path.socket directory channel), f')
      ∧ f.Bound f' directory channel listener l := by
  obtain ⟨l, mode, hl, hentry, hmode, hnew⟩ := h.spec
  obtain ⟨hplace, hfree, hbind⟩ := bindSocket_of_opens hslash h hvacant hl listener
  have hkept : opened.KeepsWays (opened.put (l ++ [channel ++ ".sock"]) (.socket listener)) :=
    keepsWays_put hfree listener
  have hput (l' : Location) :=
    opened.get?_put l' (ne_nil_of_get? hfree) (.socket listener)
  refine ⟨_, l, hbind, hkept.locate hl, ⟨mode, ?_, hmode, hnew⟩,
    hkept.place? (place?_eq_some_iff.2 hplace), ?_, ?_, fun l' hl' => ?_⟩
  · rw [hput, if_neg (by simp), hentry]
  · rw [hput, if_pos rfl]
  · rcases h.leaves.changes (l ++ [channel ++ ".sock"]) with hsame | hmade
    · rwa [hsame] at hfree
    · -- no directory was made in the place of the socket
      obtain ⟨mode', hdirectory⟩ := hmade.after
      rw [hdirectory] at hfree
      rcases hfree with hnone | ⟨old, hsocket⟩
      · cases hnone
      · cases hsocket
  · have hsame := (hput l').trans (if_neg hl')
    rw [hsame]
    exact (h.leaves.changes l').imp_right fun hmade => hmade.kept hkept hsame

/-- On a straight path nothing is made unless everything is, and the socket with it. -/
theorem Refuses.unchanged {error : SocketError} (h : f.Refuses directory channel error f')
    (hrooted : f.Rooted) (hslash : '/' ∉ channel.toList) (hstraight : Path.IsStraight directory)
    (hreadable : Path.isReadable channel = true)
    (hlook : f.look directory = .error .notFound) : f' = f := by
  by_cases hdirectory : directory = ""
  · cases h with
    | directory h => exact (h.unique (.nowhere hdirectory)).2
    | unseen hopens => exact absurd (.nowhere hdirectory) hopens.not_bars
    | occupied hopens => exact absurd (.nowhere hdirectory) hopens.not_bars
  rcases opens_or_leaves hrooted hstraight hdirectory hlook with
    ⟨-, opened, l, hopens, hl, hbare⟩ | ⟨-, error', hbars⟩
  · have hbind := hopens.bound hslash (vacant_of_bare hslash hreadable hl hbare) ⟨0⟩
    obtain ⟨f'', l', hbind, -⟩ := hbind
    exact nomatch (bindSocket_of_refused h ⟨0⟩).symm.trans hbind
  · cases h with
    | directory h => exact (h.unique hbars).2
    | unseen hopens => exact absurd hbars hopens.not_bars
    | occupied hopens => exact absurd hbars hopens.not_bars

/-- On a straight path, the files as they are before decide whether a socket is bound. -/
theorem opens_and_vacant_iff (hrooted : f.Rooted) (hslash : '/' ∉ channel.toList)
    (hstraight : Path.IsStraight directory) :
    (∃ opened, f.Opens directory opened ∧ opened.Vacant (Path.socket directory channel))
      ↔ directory ≠ ""
        ∧ (f.look directory = .error .notFound ∧ f.Clear directory
          ∨ ∃ mode, f.look directory = .ok (.directory mode) ∧ mode % 0o100 = 0)
        ∧ f.Vacant (Path.socket directory channel) := by
  constructor
  · rintro ⟨opened, hopens, hvacant⟩
    cases hopens with
    | found hdirectory hlook hmode => exact ⟨hdirectory, .inr ⟨_, hlook, hmode⟩, hvacant⟩
    | made hdirectory hlook hpaved hl =>
      have hreadable := readable_of_vacant hslash hvacant
      rcases opens_or_leaves hrooted hstraight hdirectory hlook with
        ⟨hclear, -⟩ | ⟨-, error, hbars⟩
      · exact ⟨hdirectory, .inl ⟨hlook, hclear⟩, vacant_of_absent hslash hreadable hlook⟩
      · exact absurd hbars (Opens.made hdirectory hlook hpaved hl).not_bars
  · rintro ⟨hdirectory, ⟨hlook, hclear⟩ | ⟨mode, hlook, hmode⟩, hvacant⟩
    · have hreadable := readable_of_vacant hslash hvacant
      rcases opens_or_leaves hrooted hstraight hdirectory hlook with
        ⟨-, opened, l, hopens, hl, hbare⟩ | ⟨hblocked, -⟩
      · exact ⟨opened, hopens, vacant_of_bare hslash hreadable hl hbare⟩
      · exact absurd hclear hblocked
    · exact ⟨f, .found hdirectory hlook hmode, hvacant⟩

/-- A socket is bound if and only if its directory is let through, being private or made, and there
is nothing in its place but an earlier socket. Then it is in that directory, which is private, and
took nothing's place but that of the earlier socket. Otherwise the error tells what refused it, and
nothing has changed but directories that were made on the way to one that was not there; on a
straight path these are not left behind either. -/
theorem bind_guarded (hrooted : f.Rooted) (hslash : '/' ∉ channel.toList) (listener : ListenerId)
    {r : Except SocketError String} (h : f.bindSocket directory channel listener = (r, f')) :
    (r.isOk = true
        ↔ ∃ opened, f.Opens directory opened ∧ opened.Vacant (Path.socket directory channel))
      ∧ (Path.IsStraight directory → (r.isOk = true ↔ directory ≠ ""
        ∧ (f.look directory = .error .notFound ∧ f.Clear directory
          ∨ ∃ mode, f.look directory = .ok (.directory mode) ∧ mode % 0o100 = 0)
        ∧ f.Vacant (Path.socket directory channel)))
      ∧ (∀ path, r = .ok path → path = Path.socket directory channel
        ∧ ∃ l, f.Bound f' directory channel listener l)
      ∧ ∀ error, r = .error error → f.Refuses directory channel error f'
        ∧ (∀ l, f'.get? l = f.get? l ∨ f.MadeOnWay f' directory l)
        ∧ (f.look directory ≠ .error .notFound → f' = f)
        ∧ (Path.IsStraight directory → Path.isReadable channel = true → f' = f) := by
  rcases f.vacant_or_refuses directory channel with
    ⟨opened, hopens, hvacant⟩ | ⟨error, f'', hrefuses⟩
  · obtain ⟨f'', l, hbind, hbound⟩ := hopens.bound hslash hvacant listener
    obtain ⟨rfl, rfl⟩ := Prod.mk.inj (h.symm.trans hbind)
    have hboth : ∃ opened, f.Opens directory opened
        ∧ opened.Vacant (Path.socket directory channel) := ⟨opened, hopens, hvacant⟩
    refine ⟨iff_of_true rfl hboth, fun hstraight => iff_of_true rfl
      ((opens_and_vacant_iff hrooted hslash hstraight).1 hboth), ?_, nofun⟩
    rintro path hpath
    cases hpath
    exact ⟨rfl, l, hbound⟩
  · obtain ⟨rfl, rfl⟩ := Prod.mk.inj (h.symm.trans (bindSocket_of_refused hrefuses listener))
    have hnone : ¬ ∃ opened, f.Opens directory opened
        ∧ opened.Vacant (Path.socket directory channel) := by
      rintro ⟨opened, hopens, hvacant⟩
      obtain ⟨f'', l, hbind, -⟩ := hopens.bound hslash hvacant listener
      exact nomatch h.symm.trans hbind
    refine ⟨iff_of_false Bool.false_ne_true hnone, fun hstraight =>
      iff_of_false Bool.false_ne_true fun hstatic =>
        hnone ((opens_and_vacant_iff hrooted hslash hstraight).2 hstatic), nofun, ?_⟩
    rintro error' herror
    cases herror
    refine ⟨hrefuses, hrefuses.leaves.changes, hrefuses.leaves.found, fun hstraight hreadable => ?_⟩
    by_cases hlook : f.look directory = .error .notFound
    · exact hrefuses.unchanged hrooted hslash hstraight hreadable hlook
    · exact hrefuses.leaves.found hlook

end

/-- A file and nothing else. -/
def filed : Files := Files.empty.put ["f"] .file

theorem rooted_filed : filed.Rooted :=
  rooted_empty.put (l := []) (c := "f") rfl rfl .file

/-- In a directory that is made with the one on the way to it, a socket is bound. -/
theorem bound_in_new_directory :
    ∃ l, filed.Bound (filed.bindSocket "a/run" "chan" ⟨0⟩).2 "a/run" "chan" ⟨0⟩ l := by
  have hok : (filed.bindSocket "a/run" "chan" ⟨0⟩).1 = .ok "a/run/chan.sock" := by
    decide +kernel
  have hbind : filed.bindSocket "a/run" "chan" ⟨0⟩
      = ((filed.bindSocket "a/run" "chan" ⟨0⟩).1, (filed.bindSocket "a/run" "chan" ⟨0⟩).2) := rfl
  obtain ⟨-, -, hbound, -⟩ := bind_guarded rooted_filed (by decide) ⟨0⟩ hbind
  exact (hbound _ hok).2

/-- Half way up a path that turns back there is a file: the bind fails, but the directory that was
made before stays. -/
theorem failed_bind_leaves_directory :
    filed.Rooted ∧ '/' ∉ "chan".toList
      ∧ (filed.bindSocket "missing/../f/run" "chan" ⟨0⟩).1 = .error (.files .exists)
      ∧ filed.get? ["missing"] = none
      ∧ (filed.bindSocket "missing/../f/run" "chan" ⟨0⟩).2.get? ["missing"]
        = some (.directory 0o755) :=
  ⟨rooted_filed, by decide, by decide +kernel, by decide +kernel, by decide +kernel⟩

end Files

end KeyBridge
