-- SUMMARY: Which sockets stand while listeners come and go, and what each drop takes away.
import KeyBridge.Proofs.Holdings
import KeyBridge.Proofs.Places

/-!
# Berths

Listeners are bound and dropped in any order, under the same names or under others, while someone
else changes the files. A drop takes away what stands where the path of its listener leads, and does
not ask whose it is. So the socket of a listener stands until another one is bound at its place, or
one whose path leads there is dropped (`drops_take_what_stands`).
-/

namespace KeyBridge

/-- A site, and the listeners that were bound at it and not dropped. -/
structure Quay where
  site : Site
  moored : List Endpoint

namespace Quay

/-- One thing that happens at a quay. -/
inductive Act where
  /-- Binds the socket of a channel. -/
  | bind (channel : String)
  /-- Drops a listener. -/
  | drop (e : Endpoint)
  /-- Someone else leaves other files behind. -/
  | meddle (files : Files)

/-- The quay after an act. -/
def act (q : Quay) : Act → Quay
  | .bind channel =>
    match q.site.bind channel with
    | (.ok e, site) => ⟨site, q.moored ++ [e]⟩
    | (.error _, site) => ⟨site, q.moored⟩
  | .drop e => if e ∈ q.moored then ⟨q.site.release e, q.moored.filter (· ≠ e)⟩ else q
  | .meddle files => ⟨{ q.site with files := files }, q.moored⟩

/-- The quay after acts. -/
def run (q : Quay) (acts : List Act) : Quay := acts.foldl act q

end Quay

/-- Where the path of an endpoint leads. -/
def Endpoint.place? (e : Endpoint) (f : Files) : Option Location := e.path.bind f.place?

theorem Files.KeepsWays.endpoint {f f' : Files} (h : f.KeepsWays f') {e : Endpoint} {l : Location}
    (hl : e.place? f = some l) : e.place? f' = some l := by
  obtain ⟨path, hpath, hplace⟩ := Option.bind_eq_some_iff.1 hl
  exact Option.bind_eq_some_iff.2 ⟨path, hpath, h.place? hplace⟩

/-! ## Binding and releasing -/

namespace Network

theorem length_dropListener (n : Network) (e : ListenerId) :
    (n.dropListener e).listeners.length = n.listeners.length := by
  rcases hl : n.listeners[e.index]? with _ | l
  · rw [dropListener_of_none hl]
  · rw [listeners_dropListener hl, List.length_set]

theorem lives_nextListener (n : Network) : n.lives n.nextListener = 0 := by
  simp [lives, isLive, nextListener]

end Network

namespace Site

variable {s s' : Site} {e : Endpoint}

theorem bind_ok {directory channel : String} (hdirectory : s.directory = some directory)
    (h : s.bind channel = (.ok e, s')) :
    e.listener = s.network.nextListener ∧ e.path = some (Path.socket directory channel)
      ∧ s'.network = s.network.openListener (Path.socket directory channel)
      ∧ s'.directory = s.directory ∧ s.files.KeepsWays s'.files
      ∧ ∃ l, e.place? s'.files = some l ∧ ∀ l', s'.files.standing? l'
        = if l' = l then some (.socket e.listener) else s.files.standing? l' := by
  simp only [bind, hdirectory, bindSocket] at h
  split at h
  · cases h
  rename_i path files hbound
  obtain ⟨rfl, l, furnished, hfurnished, hfree, hplace, hget⟩ := Files.bindSocket_ok hbound
  cases h
  have hkept : furnished.KeepsWays files :=
    .of_free hfree fun l' hne => (hget l').trans (if_neg hne)
  refine ⟨rfl, rfl, rfl, hdirectory.symm, hfurnished.keepsWays.trans hkept, l, hplace, fun l' => ?_⟩
  rw [← hfurnished.standing? l', Files.standing?, Files.standing?]
  by_cases hl : l' = l
  · simp [note, hget, hl, FileEntry.isDirectory]
  · simp [note, hget, hl]

theorem bind_error {directory channel : String} {error : EndpointError}
    (hdirectory : s.directory = some directory) (h : s.bind channel = (.error error, s')) :
    s'.network = s.network ∧ s'.directory = s.directory ∧ s.files.Furnishes s'.files := by
  simp only [bind, hdirectory, bindSocket] at h
  split at h
  · rename_i error files hbound
    cases h
    exact ⟨rfl, hdirectory.symm, Files.bindSocket_error hbound⟩
  · cases h

theorem release_spec (s : Site) (e : Endpoint) :
    (s.release e).network = s.network.dropListener e.listener
      ∧ (s.release e).directory = s.directory
      ∧ (s.release e).files = match e.place? s.files with
        | some l => if (s.files.standing? l).isSome then s.files.erase l else s.files
        | none => s.files := by
  rw [release]
  rcases hpath : e.path with _ | path
  · simp [releasePath, Endpoint.place?, hpath]
  · have hfiles := s.files.files_releaseSocket path
    simp only [Endpoint.place?, hpath, Option.bind_some, releasePath]
    split <;> rename_i heq <;> rw [heq] at hfiles <;> exact ⟨rfl, rfl, hfiles⟩

/-- A release takes away what stands where the path of the endpoint leads, and nothing else. -/
theorem get?_release (s : Site) (e : Endpoint) (l : Location) :
    (s.release e).files.get? l
      = if e.place? s.files = some l ∧ (s.files.standing? l).isSome then none
        else s.files.get? l := by
  rw [(s.release_spec e).2.2]
  cases hplace : e.place? s.files with
  | none => simp
  | some place =>
    dsimp only
    by_cases hstands : (s.files.standing? place).isSome = true
    · have htop : place ≠ [] := by
        rintro rfl
        rw [Files.standing?_top] at hstands
        cases hstands
      rw [if_pos hstands, Files.get?_erase _ _ htop]
      by_cases hl : l = place
      · simp [hl, hstands]
      · simp [hl, Ne.symm hl]
    · rw [if_neg hstands, if_neg]
      rintro ⟨hl, hstands'⟩
      cases hl
      exact hstands hstands'

theorem standing?_release (s : Site) (e : Endpoint) (l : Location) :
    (s.release e).files.standing? l
      = if e.place? s.files = some l then none else s.files.standing? l := by
  rw [Files.standing?, get?_release]
  by_cases hplace : e.place? s.files = some l
  · cases hstands : s.files.standing? l with
    | none =>
      rw [Files.standing?] at hstands
      simp [hplace, hstands]
    | some entry => simp [hplace]
  · simp [hplace, Files.standing?]

/-- Paths lead where they led, unless a link is taken away. -/
theorem keepsWays_release (s : Site) (e : Endpoint)
    (hlink : ∀ l target, e.place? s.files = some l → s.files.get? l ≠ some (.link target)) :
    s.files.KeepsWays (s.release e).files := by
  have hget := s.get?_release e
  constructor
  · intro l mode hl
    refine ⟨mode, (hget l).trans ?_⟩
    rw [if_neg, hl]
    rintro ⟨-, hstands⟩
    simp [Files.standing?, hl, FileEntry.isDirectory] at hstands
  · intro l target hl
    refine (hget l).trans ?_
    rw [if_neg, hl]
    rintro ⟨hplace, -⟩
    exact hlink l target hplace hl

end Site

/-! ## What happens at a place -/

namespace Quay

/-- What an act does at a place: a listener is put there, or what is there is taken away. -/
def touches (q : Quay) (l : Location) : Act → List (Option ListenerId)
  | .bind channel =>
    match q.site.bind channel with
    | (.ok e, site) => if e.place? site.files = some l then [some e.listener] else []
    | (.error _, _) => []
  | .drop e => if e ∈ q.moored ∧ e.place? q.site.files = some l then [none] else []
  | .meddle _ => []

/-- What acts do at a place, in order. -/
def history (q : Quay) (l : Location) : List Act → List (Option ListenerId)
  | [] => []
  | a :: more => q.touches l a ++ (q.act a).history l more

/-- What an act by others has to leave alone: what stands at a place, and the way there. A listener
that is dropped has no link in its place. -/
def Spares (q : Quay) (e : Endpoint) (l : Location) : Act → Prop
  | .bind _ => True
  | .drop e' => e' ∈ q.moored → ∀ l' target, e'.place? q.site.files = some l' →
      q.site.files.get? l' ≠ some (.link target)
  | .meddle files => e.place? files = some l ∧ files.standing? l = q.site.files.standing? l

/-- Acts of which none by others concerns a place. -/
def Undisturbed (q : Quay) (e : Endpoint) (l : Location) : List Act → Prop
  | [] => True
  | a :: more => q.Spares e l a ∧ (q.act a).Undisturbed e l more

/-! ## Whose listener is whose -/

/-- The listeners at a quay were made by its network, which has a directory of sockets. -/
structure Born (q : Quay) (directory : String) : Prop where
  directory : q.site.directory = some directory
  moored : ∀ m ∈ q.moored, m.listener.index < q.site.network.listeners.length

variable {q : Quay} {directory : String} {e : Endpoint} {l : Location}

theorem act_bind_ok {channel : String} {site : Site} (h : q.site.bind channel = (.ok e, site)) :
    q.act (.bind channel) = ⟨site, q.moored ++ [e]⟩ := by
  simp only [act, h]

theorem act_bind_error {channel : String} {error : EndpointError} {site : Site}
    (h : q.site.bind channel = (.error error, site)) :
    q.act (.bind channel) = ⟨site, q.moored⟩ := by
  simp only [act, h]

theorem act_drop {e : Endpoint} (he : e ∈ q.moored) :
    q.act (.drop e) = ⟨q.site.release e, q.moored.filter (· ≠ e)⟩ := if_pos he

theorem act_drop_of_not_mem {e : Endpoint} (he : e ∉ q.moored) : q.act (.drop e) = q := if_neg he

theorem Born.act (h : q.Born directory) (a : Act) : (q.act a).Born directory := by
  cases a with
  | bind channel =>
    rcases hbind : q.site.bind channel with ⟨error | e, site⟩
    · obtain ⟨hnetwork, hdirectory, -⟩ := Site.bind_error h.directory hbind
      rw [act_bind_error hbind]
      exact ⟨hdirectory.trans h.directory, hnetwork ▸ h.moored⟩
    · obtain ⟨hlistener, -, hnetwork, hdirectory, -⟩ := Site.bind_ok h.directory hbind
      rw [act_bind_ok hbind]
      have hlength : site.network.listeners.length = q.site.network.listeners.length + 1 := by
        simp [hnetwork, Network.openListener]
      refine ⟨hdirectory.trans h.directory, fun m hm => ?_⟩
      rcases List.mem_append.1 hm with hm | hm
      · exact hlength ▸ Nat.lt_succ_of_lt (h.moored m hm)
      · rw [List.mem_singleton.1 hm, hlistener]
        exact hlength ▸ Nat.lt_succ_self _
  | drop e =>
    by_cases he : e ∈ q.moored
    · obtain ⟨hnetwork, hdirectory, -⟩ := q.site.release_spec e
      rw [act_drop he]
      refine ⟨hdirectory.trans h.directory, fun m hm => ?_⟩
      rw [hnetwork, Network.length_dropListener]
      exact h.moored m (List.mem_filter.1 hm).1
    · rwa [act_drop_of_not_mem he]
  | meddle files => exact ⟨h.directory, h.moored⟩

theorem Born.run (h : q.Born directory) (acts : List Act) : (q.run acts).Born directory := by
  induction acts generalizing q with
  | nil => exact h
  | cons a more ih => exact ih (h.act a)

/-- A listener was made by the network, and no other endpoint at the quay has it. -/
structure Sole (q : Quay) (e : Endpoint) : Prop where
  born : e.listener.index < q.site.network.listeners.length
  alone : ∀ m ∈ q.moored, m.listener = e.listener → m = e

theorem Sole.ne_of_bind (h : q.Born directory) (hs : q.Sole e) {channel : String} {e' : Endpoint}
    {site : Site} (hbind : q.site.bind channel = (.ok e', site)) : e'.listener ≠ e.listener := by
  intro heq
  have hborn := hs.born
  rw [← heq, (Site.bind_ok h.directory hbind).1] at hborn
  exact Nat.lt_irrefl _ hborn

theorem sole_bind (h : q.Born directory) {channel : String} {site : Site}
    (hbind : q.site.bind channel = (.ok e, site)) : (q.act (.bind channel)).Sole e := by
  obtain ⟨hlistener, -, hnetwork, -⟩ := Site.bind_ok h.directory hbind
  rw [act_bind_ok hbind]
  refine ⟨?_, fun m hm heq => ?_⟩
  · simp [hlistener, hnetwork, Network.openListener, Network.nextListener]
  · rcases List.mem_append.1 hm with hm | hm
    · have hborn := h.moored m hm
      rw [heq, hlistener] at hborn
      exact absurd hborn (Nat.lt_irrefl _)
    · exact List.mem_singleton.1 hm

theorem Sole.act (h : q.Born directory) (hs : q.Sole e) (a : Act) : (q.act a).Sole e := by
  cases a with
  | bind channel =>
    rcases hbind : q.site.bind channel with ⟨error | e', site⟩
    · obtain ⟨hnetwork, -, -⟩ := Site.bind_error h.directory hbind
      rw [act_bind_error hbind]
      exact ⟨hnetwork ▸ hs.born, hs.alone⟩
    · obtain ⟨-, -, hnetwork, -⟩ := Site.bind_ok h.directory hbind
      rw [act_bind_ok hbind]
      refine ⟨?_, fun m hm heq => ?_⟩
      · rw [hnetwork, Network.openListener, List.length_append]
        exact Nat.lt_add_right _ hs.born
      · rcases List.mem_append.1 hm with hm | hm
        · exact hs.alone m hm heq
        · rw [List.mem_singleton.1 hm] at heq
          exact absurd heq (hs.ne_of_bind h hbind)
  | drop e' =>
    by_cases he : e' ∈ q.moored
    · obtain ⟨hnetwork, -, -⟩ := q.site.release_spec e'
      rw [act_drop he]
      refine ⟨?_, fun m hm => hs.alone m (List.mem_filter.1 hm).1⟩
      rw [hnetwork, Network.length_dropListener]
      exact hs.born
    · rwa [act_drop_of_not_mem he]
  | meddle files => exact ⟨hs.born, hs.alone⟩

/-! ## The socket of one listener -/

/-- What is known of a listener after what happened at its place. -/
structure Berth (e : Endpoint) (l : Location) (past : List (Option ListenerId)) (q : Quay) :
    Prop where
  sole : q.Sole e
  place : e.place? q.site.files = some l
  standing : q.site.files.standing? l = (past.getLast?.getD (some e.listener)).map .socket
  others : some e.listener ∉ past
  /-- As long as nothing happened at its place, the listener is there. -/
  kept : past = [] → e ∈ q.moored ∧ q.site.network.lives e.listener = 1

theorem berth_bind {channel : String} {site : Site} (h : q.Born directory)
    (hbind : q.site.bind channel = (.ok e, site)) :
    ∃ l, Berth e l [] (q.act (.bind channel)) := by
  obtain ⟨hlistener, -, hnetwork, -, -, l, hplace, hstanding⟩ := Site.bind_ok h.directory hbind
  refine ⟨l, sole_bind h hbind, ?_, ?_, List.not_mem_nil, fun _ => ?_⟩ <;> rw [act_bind_ok hbind]
  · exact hplace
  · exact (hstanding l).trans (if_pos rfl)
  · refine ⟨by simp, ?_⟩
    simp only [hnetwork, hlistener]
    rw [Network.lives_openListener, if_pos rfl, Network.lives_nextListener]

variable {past : List (Option ListenerId)}

theorem Berth.bind_here (h : q.Born directory) (hb : q.Berth e l past) {channel : String}
    {e' : Endpoint} {site : Site} (hbind : q.site.bind channel = (.ok e', site))
    (hl : e'.place? site.files = some l) :
    (q.act (.bind channel)).Berth e l (past ++ q.touches l (.bind channel)) := by
  obtain ⟨-, -, -, -, hways, l', hplace, hstanding⟩ := Site.bind_ok h.directory hbind
  obtain rfl : l' = l := Option.some.inj (hplace.symm.trans hl)
  have hthere : q.touches l' (.bind channel) = [some e'.listener] := by
    simp only [touches, hbind, if_pos hplace]
  rw [hthere]
  refine ⟨hb.sole.act h _, ?_, ?_, ?_, by simp⟩
  · rw [act_bind_ok hbind]
    exact hways.endpoint hb.place
  · rw [act_bind_ok hbind]
    simp [hstanding]
  · simpa [hb.others] using (hb.sole.ne_of_bind h hbind).symm

theorem Berth.bind_elsewhere (h : q.Born directory) (hb : q.Berth e l past) {channel : String}
    {e' : Endpoint} {site : Site} (hbind : q.site.bind channel = (.ok e', site))
    (hl : e'.place? site.files ≠ some l) :
    (q.act (.bind channel)).Berth e l (past ++ q.touches l (.bind channel)) := by
  obtain ⟨hlistener, -, hnetwork, -, hways, l', hplace, hstanding⟩ :=
    Site.bind_ok h.directory hbind
  have hne : l ≠ l' := fun heq => hl (heq ▸ hplace)
  have hnothing : q.touches l (.bind channel) = [] := by
    simp only [touches, hbind, if_neg hl]
  rw [hnothing, List.append_nil]
  refine ⟨hb.sole.act h _, ?_, ?_, hb.others, fun hpast => ?_⟩ <;> rw [act_bind_ok hbind]
  · exact hways.endpoint hb.place
  · exact (hstanding l).trans ((if_neg hne).trans hb.standing)
  · obtain ⟨hmem, hlives⟩ := hb.kept hpast
    refine ⟨List.mem_append_left _ hmem, ?_⟩
    rw [hnetwork, Network.lives_openListener,
      if_neg (hlistener ▸ hb.sole.ne_of_bind h hbind), hlives]

theorem Berth.bind (h : q.Born directory) (hb : q.Berth e l past) (channel : String) :
    (q.act (.bind channel)).Berth e l (past ++ q.touches l (.bind channel)) := by
  rcases hbind : q.site.bind channel with ⟨error | e', site⟩
  · obtain ⟨hnetwork, -, hfiles⟩ := Site.bind_error h.directory hbind
    have hnothing : q.touches l (.bind channel) = [] := by simp only [touches, hbind]
    rw [hnothing, List.append_nil]
    refine ⟨hb.sole.act h _, ?_, ?_, hb.others, ?_⟩ <;> rw [act_bind_error hbind]
    · exact hfiles.keepsWays.endpoint hb.place
    · exact (hfiles.standing? l).trans hb.standing
    · exact hnetwork ▸ hb.kept
  · by_cases hl : e'.place? site.files = some l
    · exact hb.bind_here h hbind hl
    · exact hb.bind_elsewhere h hbind hl

theorem Berth.drop (h : q.Born directory) (hb : q.Berth e l past) {e' : Endpoint}
    (hspares : q.Spares e l (.drop e')) :
    (q.act (.drop e')).Berth e l (past ++ q.touches l (.drop e')) := by
  have hsole := hb.sole.act h (.drop e')
  by_cases he : e' ∈ q.moored
  · have hplace : e.place? (q.site.release e').files = some l :=
      (q.site.keepsWays_release e' (hspares he)).endpoint hb.place
    have hstanding := q.site.standing?_release e' l
    rw [act_drop he] at hsole ⊢
    by_cases hl : e'.place? q.site.files = some l
    · have hthere : q.touches l (.drop e') = [none] := if_pos ⟨he, hl⟩
      rw [hthere]
      refine ⟨hsole, hplace, ?_, by simpa using hb.others, by simp⟩
      rw [hstanding, if_pos hl]
      simp
    · have hnothing : q.touches l (.drop e') = [] := if_neg fun h => hl h.2
      rw [hnothing, List.append_nil]
      refine ⟨hsole, hplace, ?_, hb.others, fun hpast => ?_⟩
      · rw [hstanding, if_neg hl]
        exact hb.standing
      · obtain ⟨hmem, hlives⟩ := hb.kept hpast
        -- the path of the listener itself leads to the place
        have hne : e ≠ e' := by
          rintro rfl
          exact hl hb.place
        have hlistener : e'.listener ≠ e.listener :=
          fun heq => hne (hb.sole.alone e' he heq).symm
        refine ⟨List.mem_filter.2 ⟨hmem, by simpa using hne⟩, ?_⟩
        rw [(q.site.release_spec e').1, Network.lives_dropListener, if_neg hlistener, hlives]
  · have hnothing : q.touches l (.drop e') = [] := if_neg fun h => he h.1
    rw [act_drop_of_not_mem he, hnothing, List.append_nil]
    exact hb

theorem Berth.act (h : q.Born directory) (hb : q.Berth e l past) {a : Act}
    (hspares : q.Spares e l a) : (q.act a).Berth e l (past ++ q.touches l a) := by
  cases a with
  | bind channel => exact hb.bind h channel
  | drop e' => exact hb.drop h hspares
  | meddle files =>
    obtain ⟨hplace, hstanding⟩ := hspares
    rw [touches, List.append_nil]
    exact ⟨hb.sole.act h _, hplace, hstanding.trans hb.standing, hb.others, hb.kept⟩

theorem Berth.run (h : q.Born directory) (hb : q.Berth e l past) {acts : List Act}
    (hundisturbed : q.Undisturbed e l acts) :
    (q.run acts).Berth e l (past ++ q.history l acts) := by
  induction acts generalizing q past with
  | nil =>
    rw [history, List.append_nil]
    exact hb
  | cons a more ih =>
    obtain ⟨hspares, hmore⟩ := hundisturbed
    rw [history, ← List.append_assoc]
    exact ih (h.act a) (hb.act h hspares) hmore

theorem Berth.standing_iff (hb : q.Berth e l past) :
    q.site.files.standing? l = some (.socket e.listener) ↔ past = [] := by
  rw [hb.standing]
  constructor
  · intro hsocket
    rcases List.eq_nil_or_concat past with hnil | ⟨before, last, hpast⟩
    · exact hnil
    · rw [List.concat_eq_append] at hpast
      subst hpast
      have hlast : last = some e.listener := by simpa using hsocket
      exact absurd (by simp [hlast]) hb.others
  · rintro rfl
    rfl

/-- As long as nothing happened at its place, a listener can be reached. -/
theorem Berth.connect (h : q.Born directory) (hb : q.Berth e l past) (hpast : past = [])
    {channel : String} (hpath : e.path = some (Path.socket directory channel)) :
    q.site.connect channel = .ok ((q.site.network.connectTo e.listener).1,
      { q.site with network := (q.site.network.connectTo e.listener).2 }) := by
  have hplace : q.site.files.place? (Path.socket directory channel) = some l := by
    simpa [Endpoint.place?, hpath] using hb.place
  have hlistener := Files.listener_of_standing? hplace (hb.standing_iff.2 hpast)
  have hlive : q.site.network.isLive e.listener = true := by
    simpa [Network.lives] using (hb.kept hpast).2
  simp only [Site.connect, h.directory, Site.connectSocket, hlistener, hlive, if_true]

/-- Dropping a listener takes away what stands where its path leads, whatever that is, and nothing
else. The socket of a new listener stands, and leads to it, until another listener is bound at its
place or one whose path leads there is dropped, provided that nobody else disturbs it. -/
theorem drops_take_what_stands {s : Site} {directory : String}
    (hdirectory : s.directory = some directory) {acts : List Act} {q : Quay}
    (hq : run ⟨s, []⟩ acts = q) :
    (∀ e ∈ q.moored, ∀ l, (q.act (.drop e)).site.files.get? l
      = if e.place? q.site.files = some l ∧ (q.site.files.standing? l).isSome then none
        else q.site.files.get? l)
    ∧ ∀ channel e site, q.site.bind channel = (.ok e, site) →
      ∃ l, ∀ more, (q.act (.bind channel)).Undisturbed e l more →
        let q' := (q.act (.bind channel)).run more
        let past := (q.act (.bind channel)).history l more
        e.place? q'.site.files = some l
        ∧ q'.site.files.standing? l = (past.getLast?.getD (some e.listener)).map .socket
        ∧ (q'.site.files.standing? l = some (.socket e.listener) ↔ past = [])
        ∧ (past = [] → e ∈ q'.moored ∧ q'.site.connect channel
          = .ok ((q'.site.network.connectTo e.listener).1,
            { q'.site with network := (q'.site.network.connectTo e.listener).2 })) := by
  have hborn : q.Born directory := hq ▸ Born.run ⟨hdirectory, by simp⟩ acts
  refine ⟨fun e he l => ?_, fun channel e site hbind => ?_⟩
  · rw [act_drop he]
    exact Site.get?_release _ e l
  · obtain ⟨l, hberth⟩ := berth_bind hborn hbind
    have hborn' := hborn.act (.bind channel)
    refine ⟨l, fun more hundisturbed => ?_⟩
    have hafter := hberth.run hborn' hundisturbed
    rw [List.nil_append] at hafter
    have hpath := (Site.bind_ok hborn.directory hbind).2.1
    exact ⟨hafter.place, hafter.standing, hafter.standing_iff, fun hpast =>
      ⟨(hafter.kept hpast).1, hafter.connect (hborn'.run more) hpast hpath⟩⟩

/-- A quay with a private directory. -/
def shore : Quay := ⟨.withSockets (.fresh 0) ⟨[(["run"], .directory 0o700)]⟩ "run", []⟩

/-- The first listener that is bound at it. -/
def elder : Endpoint := ⟨⟨0⟩, some "run/chan.sock"⟩

/-- The second, under the same name. -/
def heir : Endpoint := ⟨⟨1⟩, some "run/chan.sock"⟩

/-- A listener that is dropped late takes away the socket of the next one. -/
theorem late_drop_takes_socket :
    ∃ l, heir.place? (shore.run [.bind "chan", .bind "chan"]).site.files = some l
      ∧ heir ∈ (shore.run [.bind "chan", .bind "chan", .drop elder]).moored
      ∧ (shore.run [.bind "chan", .bind "chan", .drop elder]).site.files.standing? l
        ≠ some (.socket heir.listener) := by
  have hpast : shore.run [.bind "chan"] = shore.run [.bind "chan"] := rfl
  have hbind : (shore.run [.bind "chan"]).site.bind "chan"
      = (.ok heir, (shore.run [.bind "chan", .bind "chan"]).site) := rfl
  obtain ⟨l, hl⟩ := (drops_take_what_stands (s := shore.site) rfl hpast).2 _ _ _ hbind
  have hbefore : heir.place? (shore.run [.bind "chan", .bind "chan"]).site.files = some l :=
    (hl [] trivial).1
  have hspared : (shore.run [.bind "chan", .bind "chan"]).Undisturbed heir l [.drop elder] := by
    refine ⟨fun _ l' target hplace => ?_, trivial⟩
    have helder : elder.place? (shore.run [.bind "chan", .bind "chan"]).site.files
        = some ["run", "chan.sock"] := by decide
    rw [Option.some.inj (hplace.symm.trans helder)]
    exact nofun
  obtain ⟨-, -, hsocket, -⟩ := hl [.drop elder] hspared
  refine ⟨l, hbefore, by decide, fun hstands => ?_⟩
  have hhistory := hsocket.1 hstands
  have hmem : elder ∈ (shore.run [.bind "chan", .bind "chan"]).moored := by decide
  rw [history, touches, if_pos ⟨hmem, hbefore⟩] at hhistory
  cases hhistory

end Quay

end KeyBridge
