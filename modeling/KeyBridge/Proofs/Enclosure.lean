-- SUMMARY: Which sockets are in their directory, and that binding these changes nothing elsewhere.
import KeyBridge.Config.Basic
import KeyBridge.Proofs.Binds

/-!
# Enclosure

The name of a channel is joined to the directory of sockets like any path, so slashes in it lead
elsewhere. A socket is in its directory exactly if what stands before the last slash of its name
adds nothing to the path of the directory, or repeats the whole of it (`socket_enclosed_iff`).
-/

namespace KeyBridge

namespace Path

/-! ## Names on a path -/

/-- The components of a path that do not stay where they are. -/
def names (path : String) : List String := (components path).filter fun c => !stays c

/-- A path leads to an entry of the directory to which another leads. -/
structure IsChild (directory path : String) : Prop where
  root : isAbsolute path = isAbsolute directory
  name : ∃ c, leadsOn c = true ∧ names path = names directory ++ [c]

/-- The components before the last slash. -/
def front (path : String) : List String := (components path).dropLast

theorem exists_last (path : String) : ∃ last, components path = front path ++ [last]
    ∧ ∀ {name : String}, '/' ∉ name.toList →
      components (path ++ name) = front path ++ [last ++ name] := by
  have hpieces (piece cs : List Char) : ∃ before last, piecesFrom piece cs = before ++ [last]
      ∧ ∀ {ds : List Char}, '/' ∉ ds →
        piecesFrom piece (cs ++ ds) = before ++ [last ++ String.ofList ds] := by
    induction cs generalizing piece with
    | nil =>
      refine ⟨[], String.ofList piece, rfl, fun hds => ?_⟩
      rw [List.nil_append, piecesFrom_of_no_slash hds, String.ofList_append, List.nil_append]
    | cons c cs ih =>
      by_cases hc : c = '/'
      · obtain ⟨before, last, hlast, happend⟩ := ih []
        refine ⟨String.ofList piece :: before, last, ?_, fun hds => ?_⟩
        · rw [piecesFrom, if_pos hc, hlast, List.cons_append]
        · rw [List.cons_append, piecesFrom, if_pos hc, happend hds, List.cons_append]
      · obtain ⟨before, last, hlast, happend⟩ := ih (piece ++ [c])
        refine ⟨before, last, ?_, fun hds => ?_⟩
        · rw [piecesFrom, if_neg hc, hlast]
        · rw [List.cons_append, piecesFrom, if_neg hc, happend hds]
  obtain ⟨before, last, hlast, happend⟩ := hpieces [] path.toList
  have hfront : front path = before := by rw [front, components, hlast, List.dropLast_concat]
  refine ⟨last, by rw [hfront, components, hlast], fun {name} hname => ?_⟩
  rw [hfront, components, String.toList_append, happend hname, String.ofList_toList]

theorem isAbsolute_append {name : String} (hname : '/' ∉ name.toList) (path : String) :
    isAbsolute (path ++ name) = isAbsolute path := by
  rw [isAbsolute, isAbsolute, String.toList_append]
  cases path.toList with
  | nil =>
    rw [List.nil_append, decide_eq_decide]
    exact iff_of_false (fun hhead => hname (List.mem_of_mem_head? hhead)) (by simp)
  | cons c cs => rfl

theorem isAbsolute_join {path : String} (h : isAbsolute path = false) (directory : String) :
    isAbsolute (join directory path) = isAbsolute directory := by
  have hfront (more : String) (hne : directory ≠ "") :
      isAbsolute (directory ++ more) = isAbsolute directory := by
    rw [isAbsolute, isAbsolute, String.toList_append]
    cases hcs : directory.toList with
    | nil => exact absurd (String.toList_eq_nil_iff.1 hcs) hne
    | cons c cs => rfl
  rw [join, h, if_neg Bool.false_ne_true]
  by_cases hempty : directory = ""
  · subst hempty
    rw [if_pos (by rfl), String.empty_append, h]
    rfl
  · split
    · exact hfront path hempty
    · rw [String.append_assoc]
      exact hfront _ hempty

/-- The names on the path of a socket: those of the directory, unless the channel's name starts at
the top, then those before the last slash of that name, and one more. -/
theorem names_socket {id : String} (hid : '/' ∉ id.toList) (directory lead : String) :
    isAbsolute (socket directory (lead ++ id)) = (isAbsolute lead || isAbsolute directory)
      ∧ ∃ c, leadsOn c = true ∧ names (socket directory (lead ++ id))
        = (if isAbsolute lead then [] else names directory)
          ++ (front lead).filter (fun c => !stays c) ++ [c] := by
  have hname : '/' ∉ (id ++ ".sock").toList := by simpa using hid
  obtain ⟨last, -, happend⟩ := exists_last lead
  have hchannel : components (lead ++ id ++ ".sock") = front lead ++ [last ++ id ++ ".sock"] := by
    rw [String.append_assoc, happend hname, String.append_assoc]
  have hleads := leadsOn_append_sock (last ++ id)
  have hmoves : stays (last ++ id ++ ".sock") = false := by
    simpa using (Bool.and_eq_true_iff.1 hleads).1
  have habsolute : isAbsolute (lead ++ id ++ ".sock") = isAbsolute lead := by
    rw [String.append_assoc, isAbsolute_append hname]
  cases hlead : isAbsolute lead with
  | true =>
    have hpath : socket directory (lead ++ id) = lead ++ id ++ ".sock" :=
      if_pos (habsolute.trans hlead)
    refine ⟨by rw [hpath, habsolute, hlead, Bool.true_or], _, hleads, ?_⟩
    rw [names, hpath, hchannel, List.filter_append]
    simp [hmoves]
  | false =>
    have hrelative : isAbsolute (lead ++ id ++ ".sock") = false := habsolute.trans hlead
    obtain ⟨base, hjoin, hdirectory⟩ := components_join hrelative directory
    have hbase : base.filter (fun c => !stays c) = names directory := by
      rcases hdirectory with hdirectory | hdirectory <;>
        simp [names, hdirectory, List.filter_append, stays]
    refine ⟨by rw [Bool.false_or]; exact isAbsolute_join hrelative directory, _, hleads, ?_⟩
    rw [names, socket, hjoin, hchannel, List.filter_append, hbase, List.filter_append]
    simp [hmoves]

/-- A socket is in its directory if and only if the part of its name before the last slash stays
there, or leads there from the top. -/
theorem socket_isChild_iff {id : String} (hid : '/' ∉ id.toList) (directory lead : String) :
    IsChild directory (socket directory (lead ++ id))
      ↔ if isAbsolute lead then
          isAbsolute directory = true ∧ (front lead).filter (fun c => !stays c) = names directory
        else (front lead).all stays = true := by
  obtain ⟨hroot, c, hleads, hnames⟩ := names_socket hid directory lead
  have hstays : (front lead).all stays = true
      ↔ (front lead).filter (fun c => !stays c) = [] := by
    simp [List.filter_eq_nil_iff]
  cases hlead : isAbsolute lead with
  | true =>
    rw [hlead, Bool.true_or] at hroot
    rw [hlead, if_pos rfl, List.nil_append] at hnames
    rw [if_pos rfl]
    constructor
    · rintro ⟨hroot', c', -, hchild⟩
      exact ⟨hroot'.symm.trans hroot, (List.append_inj' (hnames.symm.trans hchild) rfl).1⟩
    · rintro ⟨hroot', hfront⟩
      exact ⟨hroot.trans hroot'.symm, c, hleads, hfront ▸ hnames⟩
  | false =>
    rw [hlead, Bool.false_or] at hroot
    rw [hlead, if_neg Bool.false_ne_true] at hnames
    rw [if_neg Bool.false_ne_true, hstays]
    constructor
    · rintro ⟨-, c', -, hchild⟩
      exact List.append_right_eq_self.1 (List.append_inj' (hnames.symm.trans hchild) rfl).1
    · intro hfront
      rw [hfront, List.append_nil] at hnames
      exact ⟨hroot, c, hleads, hnames⟩

theorem exists_socket_name (directory channel : String) : ∃ before last,
    components (socket directory channel) = before ++ [last ++ ".sock"] := by
  obtain ⟨last, -, happend⟩ := exists_last channel
  have hchannel : components (channel ++ ".sock") = front channel ++ [last ++ ".sock"] :=
    happend (by decide)
  cases habsolute : isAbsolute (channel ++ ".sock") with
  | true =>
    refine ⟨front channel, last, ?_⟩
    rw [socket, join, if_pos habsolute, hchannel]
  | false =>
    obtain ⟨base, hjoin, -⟩ := components_join habsolute directory
    refine ⟨base ++ front channel, last, ?_⟩
    rw [socket, hjoin, hchannel, List.append_assoc]

end Path

namespace Files

variable {f f' : Files} {directory channel : String} {l : Location}

/-! ## Places in a directory -/

theorem lead_filter (f : Files) (components : List String) (links : Nat) (here : Location) :
    f.lead links here (components ++ ["."])
      = f.lead links here (components.filter (fun c => !Path.stays c) ++ ["."]) := by
  induction components generalizing links here with
  | nil => rfl
  | cons c components ih =>
    cases hc : Path.stays c with
    | true =>
      have hskip : f.lead links here (c :: (components ++ ["."]))
          = f.lead links here (components ++ ["."]) := by
        cases links <;> simp only [lead, leadWith, hc] <;> rfl
      rw [List.cons_append, hskip, ih, List.filter_cons_of_neg (by simp [hc])]
    | false =>
      rw [List.filter_cons_of_pos (by simp [hc])]
      rcases f.lead_onward links here [c] with ⟨e, herror⟩ | ⟨l, links', hlead⟩
      · exact (herror _ (by simp)).trans (herror _ (by simp)).symm
      · exact (hlead _ (by simp)).trans ((ih links' l).trans (hlead _ (by simp)).symm)

/-- Components that stay where they are make no difference to a directory. -/
theorem locateDirectory_filter (f : Files) (components : List String) :
    f.locateDirectory components
      = f.locateDirectory (components.filter fun c => !Path.stays c) := by
  have hreadable : (components ++ ["."]).all Path.isReadable
      = (components.filter (fun c => !Path.stays c) ++ ["."]).all Path.isReadable := by
    rw [List.all_append, List.all_append, List.all_filter, Bool.eq_iff_iff]
    simp only [Bool.and_eq_true, List.all_eq_true]
    refine and_congr_left fun _ => forall₂_congr fun c _ => ?_
    cases hc : Path.stays c
    · simp
    · simp [Path.isReadable_of_stays hc]
  rw [locateDirectory, locateDirectory, locate, locate, hreadable, lead_filter]

/-- The path of a socket that is in its directory leads to an entry of it. -/
theorem locate_child (hchild : Path.IsChild directory (Path.socket directory channel))
    (hvacant : f.Vacant (Path.socket directory channel))
    (hl : f.locateDirectory (Path.components directory) = .ok l) :
    ∃ name, f.locate (Path.components (Path.socket directory channel)) = .ok (l ++ [name]) := by
  obtain ⟨before, last, hsocket⟩ := Path.exists_socket_name directory channel
  have hleads := Path.leadsOn_append_sock last
  have hmoves : Path.stays (last ++ ".sock") = false := by
    simpa using (Bool.and_eq_true_iff.1 hleads).1
  have hbefore : f.locateDirectory before = .ok l := by
    obtain ⟨-, c, -, hnames⟩ := hchild
    have hsplit : before.filter (fun c => !Path.stays c) ++ [last ++ ".sock"]
        = Path.names directory ++ [c] := by
      rw [← hnames, Path.names, hsocket, List.filter_append]
      simp [hmoves]
    rw [locateDirectory_filter, (List.append_inj' hsplit rfl).1, Path.names,
      ← locateDirectory_filter, hl]
  cases hreadable : Path.isReadable (last ++ ".sock") with
  | true =>
    refine ⟨last ++ ".sock", ?_⟩
    rw [hsocket, locate_concat hleads hreadable, hbefore]
    rfl
  | false =>
    have hlocate : f.locate (Path.components (Path.socket directory channel))
        = .error .invalidName := by
      rw [hsocket, locate, List.all_append, List.all_cons, hreadable]
      simp
    simp [Vacant, look_eq, hlocate] at hvacant

/-- Binding a socket that is in its directory changes nothing but entries of the directory, and
directories on the way to it. -/
theorem bind_inside (hchild : Path.IsChild directory (Path.socket directory channel))
    (f : Files) (listener : ListenerId) (l : Location) :
    let f' := (f.bindSocket directory channel listener).2
    f'.get? l = f.get? l ∨ f.MadeOnWay f' directory l
      ∨ ∃ d name, f'.locateDirectory (Path.components directory) = .ok d ∧ l = d ++ [name] := by
  dsimp only
  rcases f.vacant_or_refuses directory channel with
    ⟨opened, hopens, hvacant⟩ | ⟨error, f', hrefuses⟩
  · obtain ⟨d, mode, hd, -⟩ := hopens.spec
    obtain ⟨name, hplace⟩ := locate_child hchild hvacant hd
    have hfree := (vacant_iff hplace).1 hvacant
    have hkept := keepsWays_put hfree listener
    have hput := opened.get?_put l (ne_nil_of_get? hfree) (.socket listener)
    rw [bindSocket_of_vacant hopens hplace hfree]
    by_cases hl : l = d ++ [name]
    · exact .inr (.inr ⟨d, name, hkept.locate hd, hl⟩)
    · have hsame := hput.trans (if_neg hl)
      rw [hsame]
      exact (hopens.leaves.changes l).imp_right fun hmade => .inl (hmade.kept hkept hsame)
  · rw [bindSocket_of_refused hrefuses]
    exact (hrefuses.leaves.changes l).imp_right .inl

end Files

/-- A channel's socket is in the directory of sockets if and only if the part of the prefix before
its last slash stays there, or leads there from the top. Then a bind changes nothing but entries of
that directory, and directories on the way to it that were made. -/
theorem socket_enclosed_iff (config : BridgeConfig) {id : String} (hid : '/' ∉ id.toList)
    (directory : String) :
    let channel := config.namePrefix ++ id
    (Path.IsChild directory (Path.socket directory channel)
        ↔ if Path.isAbsolute config.namePrefix then
            Path.isAbsolute directory = true
              ∧ (Path.front config.namePrefix).filter (fun c => !Path.stays c)
                = Path.names directory
          else (Path.front config.namePrefix).all Path.stays = true)
      ∧ (Path.IsChild directory (Path.socket directory channel) →
        ∀ (f : Files) (listener : ListenerId) (l : Location),
          let f' := (f.bindSocket directory channel listener).2
          f'.get? l = f.get? l ∨ f.MadeOnWay f' directory l
            ∨ ∃ d name, f'.locateDirectory (Path.components directory) = .ok d
              ∧ l = d ++ [name]) :=
  ⟨Path.socket_isChild_iff hid directory config.namePrefix, Files.bind_inside⟩

/-- A prefix that leads out of the directory of sockets. -/
def climbing : BridgeConfig := { BridgeConfig.default with namePrefix := "../" }

/-- The socket of such a channel is not in the directory, but beside it. -/
theorem socket_beside_directory :
    ¬ Path.IsChild "run" (Path.socket "run" ("../" ++ "0123456789abcdef0123456789abcdef"))
      ∧ (Files.empty.bindSocket "run" ("../" ++ "0123456789abcdef0123456789abcdef") ⟨0⟩).2.get?
          ["0123456789abcdef0123456789abcdef.sock"] = some (.socket ⟨0⟩) := by
  have hid : '/' ∉ "0123456789abcdef0123456789abcdef".toList := by decide
  obtain ⟨hchild, -⟩ := socket_enclosed_iff climbing hid "run"
  refine ⟨fun hinside => ?_, by decide +kernel⟩
  have hfront := hchild.1 hinside
  revert hfront
  decide

end KeyBridge
