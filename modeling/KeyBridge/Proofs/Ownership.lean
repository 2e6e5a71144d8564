-- SUMMARY: Which server has which name, and how a server comes back to its name.
import KeyBridge.Proofs.Lifecycle
import KeyBridge.Proofs.Requests

/-!
# Ownership

Servers contend for names, but no two listeners that exist have a name in common, and the listener
of a server bears its name (`Housed`). So in a quiet state the servers that are not idle are those
that have the one listener of their name. An idle server that is running waits for no longer than it
is made to; when it is due it binds its name, if nobody else has it.
-/

namespace KeyBridge

/-! ## Listeners of a name -/

namespace Network

/-- A listener exists and bears a name. -/
def Answers (n : Network) (name : String) (e : ListenerId) : Prop :=
  ∃ l, n.listeners[e.index]? = some l ∧ isLiveAt name l = true

/-- A listener is the one that exists of a name. -/
def Sole (n : Network) (name : String) (e : ListenerId) : Prop :=
  n.Answers name e ∧ ∀ e', n.Answers name e' → e' = e

/-- No two listeners that exist have a name in common. -/
def Exclusive (n : Network) : Prop := ∀ name e e', n.Answers name e → n.Answers name e' → e' = e

variable {n n' : Network} {e : ListenerId} {name : String}

theorem isBound_iff : n.isBound name = true ↔ ∃ e, n.Answers name e := by
  rw [isBound, List.any_eq_true]
  constructor
  · rintro ⟨l, hl, hat⟩
    obtain ⟨i, hi⟩ := List.getElem?_of_mem hl
    exact ⟨⟨i⟩, l, hi, hat⟩
  · rintro ⟨e, l, hl, hat⟩
    exact ⟨l, List.mem_of_getElem? hl, hat⟩

theorem Sound.answers_iff (h : n.Sound) :
    n.Answers name e ↔ 0 < n.lives e ∧ n.bound[e.index]? = some name := by
  rw [lives, isLive, bound, List.getElem?_map]
  rcases hl : n.listeners[e.index]? with _ | l
  · simp [Answers, hl]
  · have hattached := h.attached l (List.mem_of_getElem? hl)
    rcases hlive : l.live <;> simp [Answers, hl, isLiveAt, hattached, hlive]

/-- No listener was opened, and none came back to life. -/
structure Aged (n n' : Network) : Prop where
  bound : n'.bound = n.bound
  lives : ∀ e, n'.lives e ≤ n.lives e

theorem Aged.refl (n : Network) : n.Aged n := ⟨rfl, fun _ => Nat.le_refl _⟩

theorem Aged.trans {n'' : Network} (h : n.Aged n') (h' : n'.Aged n'') : n.Aged n'' :=
  ⟨h'.bound.trans h.bound, fun e => Nat.le_trans (h'.lives e) (h.lives e)⟩

theorem aged_dropListener (n : Network) (e : ListenerId) : n.Aged (n.dropListener e) := by
  refine ⟨bound_dropListener n e, fun e' => ?_⟩
  rw [lives_dropListener]
  split
  · exact Nat.zero_le _
  · exact Nat.le_refl _

theorem aged_of_listeners (h : n'.listeners = n.listeners) : n.Aged n' :=
  ⟨bound_of_listeners h, fun e => Nat.le_of_eq (lives_of_listeners h e)⟩

theorem aged_enqueue {l : Listener} (item : Incoming) (hl : n.listeners[e.index]? = some l) :
    n.Aged (n.enqueue e item) :=
  ⟨bound_enqueue item hl, fun e' => Nat.le_of_eq (lives_enqueue item hl e')⟩

theorem aged_newConn {l : Listener} (link : Link) (item : Incoming)
    (hl : n.listeners[e.index]? = some l) : n.Aged ((n.newLink link).2.enqueue e item) := by
  have hlisteners : (n.newLink link).2.listeners = n.listeners := rfl
  exact (aged_of_listeners hlisteners).trans (aged_enqueue item hl)

theorem aged_accept_done {c : Conn} (ha : n.accept e = (.done c, n')) : n.Aged n' :=
  ⟨bound_accept_done ha, fun e' => Nat.le_of_eq (lives_accept_done ha e')⟩

theorem Sound.aged_accept_failed (h : n.Sound) {error : NetworkError}
    (ha : n.accept e = (.failed error, n')) : n.Aged n' := by
  refine ⟨?_, fun e' => Nat.le_of_eq (h.lives_accept_failed ha e')⟩
  rcases h.accept_failed ha with rfl | ⟨l, rest, hl, -, rfl⟩
  · rfl
  · exact bound_set rfl hl rfl

theorem Exclusive.aged (h : n.Exclusive) (hn : n.Sound) (hn' : n'.Sound) (haged : n.Aged n') :
    n'.Exclusive := by
  have hback {name : String} {e : ListenerId} (he : n'.Answers name e) : n.Answers name e := by
    obtain ⟨hlive, hname⟩ := hn'.answers_iff.1 he
    rw [haged.bound] at hname
    exact hn.answers_iff.2 ⟨Nat.lt_of_lt_of_le hlive (haged.lives e), hname⟩
  intro name e e' he he'
  exact h name e e' (hback he) (hback he')

/-- A listener that is opened answers to its name, and all others to theirs. -/
theorem answers_openListener {opened : String} :
    (n.openListener opened).Answers name e
      ↔ n.Answers name e ∨ e = n.nextListener ∧ name = opened := by
  have hlisteners : (n.openListener opened).listeners = n.listeners ++ [⟨opened, [], true, true⟩] :=
    rfl
  obtain ⟨i⟩ := e
  rw [Answers, Answers, hlisteners]
  rcases Nat.lt_trichotomy i n.listeners.length with hlt | heq | hgt
  · simp [List.getElem?_append_left hlt, nextListener, Nat.ne_of_lt hlt]
  · rw [heq, List.getElem?_concat_length, List.getElem?_eq_none (Nat.le_refl _)]
    simp [nextListener, isLiveAt, @eq_comm _ name opened]
  · rw [List.getElem?_eq_none (by rw [List.length_append]; exact hgt),
      List.getElem?_eq_none (Nat.le_of_lt hgt)]
    simp [nextListener, Nat.ne_of_gt hgt]

theorem Exclusive.openListener (h : n.Exclusive) (hfree : n.isBound name = false) :
    (n.openListener name).Exclusive := by
  have hnobody (e : ListenerId) : ¬ n.Answers name e := fun he =>
    Bool.false_ne_true (hfree.symm.trans (isBound_iff.2 ⟨e, he⟩))
  intro other e e' he he'
  rcases answers_openListener.1 he with he | ⟨rfl, rfl⟩ <;>
    rcases answers_openListener.1 he' with he' | ⟨rfl, hsame⟩
  · exact h other e e' he he'
  · exact absurd (hsame ▸ he) (hnobody e)
  · exact absurd he' (hnobody e')
  · rfl

end Network

/-! ## Servers -/

/-- How long a task still waits. -/
def Task.wait? : Task → Option Nat
  | .waiting time => some time
  | _ => none

namespace Server

open Network

/-- The listener of a server bears its name, and the server waits no longer than it is made to. -/
structure Settled (s : Server) (bound : List String) : Prop where
  named : ∀ e, s.endpoint? = some e → bound[e.listener.index]? = some s.name
  patient : ∀ time, s.wait? = some time → time ≤ s.backoff

/-- The server has the one listener that exists of its name. -/
def OwnsName (s : Server) (n : Network) : Prop :=
  ∃ e, s.endpoint? = some e ∧ n.Sole s.name e.listener

variable {s s' : Server} {bound bound' : List String} {site site' : Site}

theorem wait?_of_task {t : Task} (ht : s.task = some t) : s.wait? = t.wait? := by
  simp only [wait?, ht]
  cases t <;> rfl

theorem wait?_of_idle (ht : s.task = none) : s.wait? = none := by simp only [wait?, ht]

/-- A server without an endpoint that waits, if at all, no longer than it is made to. -/
theorem settled_of_none (he : s.endpoint? = none)
    (hw : ∀ time, s.wait? = some time → time ≤ s.backoff) : s.Settled bound :=
  ⟨fun e heq => absurd (he.symm.trans heq) (Option.some_ne_none e).symm, hw⟩

theorem settled_of_idle (ht : s.task = none) : s.Settled bound := by
  refine settled_of_none (by simp [endpoint?, ht]) fun time htime => ?_
  rw [wait?_of_idle ht] at htime
  cases htime

theorem settled_waiting (s : Server) (bound : List String) :
    (s.turnTo .idle (.waiting s.backoff)).Settled bound := by
  refine settled_of_none (endpoint?_of_task (task_turnTo ..)) fun time htime => ?_
  rw [wait?_of_task (task_turnTo ..)] at htime
  exact Nat.le_of_eq (Option.some.inj htime).symm

/-- A server that goes on with its endpoint. -/
theorem Settled.kept {t t' : Task} {e : Endpoint} (h : s.Settled bound) (ht : s.task = some t)
    (hendpoint : t.endpoint? = some e) (hkept : t'.endpoint? = some e) (st : ServerState) :
    (s.turnTo st t').Settled bound := by
  constructor
  · intro e' he'
    rw [endpoint?_of_task (task_turnTo ..), hkept, ← hendpoint, ← endpoint?_of_task ht] at he'
    exact h.named e' he'
  · intro time htime
    rw [wait?_of_task (task_turnTo ..)] at htime
    cases t' with
    | waiting => cases hkept
    | _ => cases htime

theorem Settled.of_grown (h : s.Settled bound) (hgrown : bound <+: bound') :
    s.Settled bound' := by
  obtain ⟨more, rfl⟩ := hgrown
  refine ⟨fun e he => ?_, h.patient⟩
  have hat := h.named e he
  rw [List.getElem?_append_left (List.getElem?_eq_some_iff.1 hat).1, hat]

theorem Step.settled (h : Step s site s' site') (hs : s.Settled site.network.bound)
    (hgrown : site.network.bound <+: site'.network.bound) : s'.Settled site'.network.bound := by
  cases h with
  | bound hb hfree =>
    constructor
    · intro e he
      rw [endpoint?_of_task (task_turnTo ..)] at he
      cases he
      rw [Site.network_log, Site.network_withNetwork, bound_openListener, nextListener]
      have hlast : site.network.listeners.length = site.network.bound.length := by
        simp [Network.bound]
      rw [hlast, List.getElem?_concat_length]
      rfl
    · intro time htime
      rw [wait?_of_task (task_turnTo ..)] at htime
      cases htime
  | refused => exact settled_waiting s _
  | accepted e conn n ht => exact (hs.kept ht rfl rfl .connected).of_grown hgrown
  | notAccepted => exact settled_waiting s _
  | heard e conn after bytes n ht => exact (hs.kept ht rfl rfl s.state).of_grown hgrown
  | answered e conn bytes ht => exact (hs.kept ht rfl rfl s.state).of_grown hgrown
  | parted e conn after n ht => exact (hs.kept ht rfl rfl .listening).of_grown hgrown
  | unheard => exact settled_waiting s _
  | told e conn unsent count n ht => exact (hs.kept ht rfl rfl s.state).of_grown hgrown
  | cutOff => exact settled_waiting s _

/-- A step opens a listener of a name that nobody has, or lets listeners age. -/
theorem Step.turnover (h : Step s site s' site') (hn : site.network.Sound) :
    (∃ name, site.network.isBound name = false
        ∧ site'.network = site.network.openListener name)
      ∨ site.network.Aged site'.network := by
  cases h with
  | bound hb hfree => exact .inl ⟨s.name, hfree, rfl⟩
  | refused => exact .inr (.refl _)
  | accepted e conn n ht ha => exact .inr (aged_accept_done ha)
  | notAccepted e error n ht ha =>
    exact .inr ((hn.aged_accept_failed ha).trans (n.aged_dropListener e.listener))
  | heard e conn after bytes n ht hne hr => exact .inr (aged_of_listeners (Conn.read_frame hr).2.1)
  | answered => exact .inr (.refl _)
  | parted e conn after n ht hr =>
    have hd : (after.drop n).listeners = site.network.listeners := (Conn.read_frame hr).2.1
    exact .inr (aged_of_listeners hd)
  | unheard e conn after error n ht hr =>
    have hd : (after.drop n).listeners = site.network.listeners := (Conn.read_frame hr).2.1
    exact .inr ((aged_of_listeners hd).trans (aged_dropListener _ e.listener))
  | told e conn unsent count n ht hne hw => exact .inr (aged_of_listeners (Conn.write_frame hw).1)
  | cutOff e conn unsent error n ht hne hw =>
    have hd : (conn.drop n).listeners = site.network.listeners := (Conn.write_frame hw).1
    exact .inr ((aged_of_listeners hd).trans (aged_dropListener _ e.listener))

/-- A step leaves a server running. -/
theorem Step.isRunning (h : Step s site s' site') : s'.isRunning = true := by
  cases h <;> rfl

/-- A server that is not idle has an endpoint. -/
theorem endpoint?_eq_none_iff (hstage : s.state = s.stage) :
    s.endpoint? = none ↔ s.state = .idle := by
  rcases ht : s.task with _ | t
  · rw [hstage, stage_of_idle ht, endpoint?, ht]
    simp
  · rw [hstage, stage_of_task ht, endpoint?_of_task ht]
    cases t <;> simp [Task.endpoint?, Task.state]

theorem owns_of_endpoint? {e : Endpoint} (he : s.endpoint? = some e) : s.owns e.listener = 1 := by
  obtain ⟨t, ht, hendpoint⟩ := Option.bind_eq_some_iff.1 he
  rw [owns_of_task ht, Task.owns, hendpoint]
  exact if_pos rfl

end Server

/-! ## Housed switchboards -/

namespace Switchboard

variable {b b' : Switchboard} {a : Act} {id id' : ServerId} {s s' : Server}

/-- Names are not shared, and servers are where their names are. -/
structure Housed (b : Switchboard) : Prop where
  exclusive : b.site.network.Exclusive
  settled : ∀ s ∈ b.servers, s.Settled b.site.network.bound

theorem housed_create (host : Host) : (create (.inMemory host)).Housed where
  exclusive := by
    rintro name e e' ⟨l, hl, -⟩
    simp [create, Site.inMemory, Network.fresh] at hl
  settled := by simp [create]

theorem releasing_aged (site : Site) {t : Task} (h : ∀ e, t.endpoint? = some e → e.path = none) :
    site.network.Aged (t.release site).network := by
  obtain ⟨n, hrelease, -, hnet⟩ := release_eq site h
  rw [hrelease]
  rcases hnet with ⟨-, rfl⟩ | ⟨e, n', -, hn', rfl, -⟩
  · exact .refl _
  · exact (Network.aged_of_listeners hn').trans (Network.aged_dropListener n' e.listener)

/-- An act opens a listener of a name that nobody has, or lets listeners age. -/
theorem Change.turnover (h : Change b a b') (htidy : b.Tidy) :
    (∃ name, b.site.network.isBound name = false
        ∧ b'.site.network = b.site.network.openListener name)
      ∨ b.site.network.Aged b'.site.network := by
  cases h with
  | move id s s' b' hs hstep => exact hstep.turnover htidy.sound
  | connect channel e l hl => exact .inr (Network.aged_newConn .fresh _ hl)
  | send link bytes =>
    rw [site_putOff]
    exact .inr (Network.aged_of_listeners rfl)
  | failAccept name e l hl => exact .inr (Network.aged_enqueue _ hl)
  | failConn name how e l hl => exact .inr (Network.aged_newConn Link.fresh.drop _ hl)
  | letGo index t ht =>
    exact .inr (releasing_aged b.site (htidy.abandoned t (List.mem_of_getElem? ht)))
  | _ => exact .inr (Network.aged_of_listeners rfl)

theorem Change.bound_grows (h : Change b a b') (htidy : b.Tidy) :
    b.site.network.bound <+: b'.site.network.bound := by
  rcases h.turnover htidy with ⟨name, -, hopened⟩ | haged
  · rw [hopened, Network.bound_openListener]
    exact List.prefix_append ..
  · exact haged.bound ▸ List.prefix_refl _

theorem Change.exclusive (h : Change b a b') (htidy : b.Tidy) (htidy' : b'.Tidy)
    (hexclusive : b.site.network.Exclusive) : b'.site.network.Exclusive := by
  rcases h.turnover htidy with ⟨name, hfree, hopened⟩ | haged
  · rw [hopened]
    exact hexclusive.openListener hfree
  · exact hexclusive.aged htidy.sound htidy'.sound haged

theorem settled_elapse {bound : List String} (h : s.Settled bound) (time : Nat) :
    (s.elapse time).Settled bound := by
  unfold Server.elapse
  split
  · rename_i rest ht
    refine Server.settled_of_none rfl fun left hleft => ?_
    have hpatient := h.patient rest (Server.wait?_of_task ht)
    cases hleft
    exact Nat.le_trans (Nat.sub_le rest time) hpatient
  · exact h

/-- Servers stay where their names are. -/
theorem Change.settled (h : Change b a b') (htidy : b.Tidy)
    (hsettled : ∀ s ∈ b.servers, s.Settled b.site.network.bound) :
    ∀ s ∈ b'.servers, s.Settled b'.site.network.bound := by
  have hgrown := h.bound_grows htidy
  have hkept (x : Server) (hx : x ∈ b.servers) : x.Settled b'.site.network.bound :=
    (hsettled x hx).of_grown hgrown
  have hset {i : ServerId} {s₁ : Server} (h₁ : s₁.Settled b'.site.network.bound) :
      ∀ x ∈ b.servers.set i.index s₁, x.Settled b'.site.network.bound := by
    intro x hx
    rcases List.mem_or_eq_of_mem_set hx with hx | rfl
    · exact hkept x hx
    · exact h₁
  intro x hx
  cases h with
  | add name handler buffer backoff =>
    rcases List.mem_append.1 hx with hx | hx
    · exact hkept x hx
    · rw [List.mem_singleton.1 hx]
      exact Server.settled_of_idle rfl
  | start id s hs ht => exact hset (Server.settled_of_none rfl fun time hw => by cases hw) x hx
  | shutdown id s hs => exact hset (Server.settled_of_idle rfl) x hx
  | send link bytes =>
    rw [servers_putOff] at hx
    exact hkept x hx
  | move id s s' b' hs hstep hservers =>
    rw [hservers] at hx
    exact hset (hstep.settled (hsettled s (mem_servers_of_server? hs)) hgrown) x hx
  | elapse time =>
    obtain ⟨y, hy, rfl⟩ := List.mem_map.1 hx
    exact settled_elapse (hkept y hy) time
  | _ => exact hkept x hx

theorem Housed.act (h : b.Housed) (htidy : b.Tidy) (a : Act) : (b.act a).Housed where
  exclusive := (change_act htidy a).exclusive htidy (htidy.act a) h.exclusive
  settled := (change_act htidy a).settled htidy h.settled

theorem Housed.run (h : b.Housed) (htidy : b.Tidy) (acts : List Act) : (b.run acts).Housed := by
  induction acts generalizing b with
  | nil => exact h
  | cons a acts ih => exact ih (h.act htidy a) (htidy.act a)

/-! ## Whose a name is -/

theorem Housed.answers (h : b.Housed) (htidy : b.Tidy) (hs : b.server? id = some s) {e : Endpoint}
    (he : s.endpoint? = some e) : b.site.network.Answers s.name e.listener := by
  have howns := htidy.owns_le hs e.listener
  rw [Server.owns_of_endpoint? he] at howns
  exact htidy.sound.answers_iff.2 ⟨howns, (h.settled s (mem_servers_of_server? hs)).named e he⟩

/-- A server has its name exactly if it is not idle. -/
theorem Housed.ownsName_iff (h : b.Housed) (htidy : b.Tidy) (hstaged : b.Staged)
    (hs : b.server? id = some s) : s.OwnsName b.site.network ↔ s.state ≠ .idle := by
  rw [ne_eq, ← Server.endpoint?_eq_none_iff (hstaged.server hs)]
  constructor
  · rintro ⟨e, he, -⟩ hnone
    cases hnone.symm.trans he
  · intro hsome
    obtain ⟨e, he⟩ := Option.ne_none_iff_exists'.1 hsome
    have hanswers := h.answers htidy hs he
    exact ⟨e, he, hanswers, fun e' he' => h.exclusive s.name e.listener e' hanswers he'⟩

/-- A listener has one owner. -/
theorem Tidy.owner_unique (h : b.Tidy) {e : ListenerId} (hs : b.server? id = some s)
    (hs' : b.server? id' = some s') (ho : 0 < s.owns e) (ho' : 0 < s'.owns e) : id' = id := by
  apply Decidable.byContradiction
  intro hne
  have hindex : id'.index ≠ id.index := fun hi => hne (congrArg ServerId.mk hi)
  have hboth := add_le_sum_map (f := Server.owns e) hindex hs' hs
  have howned := h.owned e
  have hlives : b.site.network.lives e ≤ 1 := Bool.toNat_le _
  simp only [owners] at howned
  omega

/-- Two servers that are not idle have different names. -/
theorem Housed.unique (h : b.Housed) (htidy : b.Tidy) (hstaged : b.Staged)
    (hs : b.server? id = some s) (hs' : b.server? id' = some s') (hname : s'.name = s.name)
    (hstate : s.state ≠ .idle) (hstate' : s'.state ≠ .idle) : id' = id := by
  obtain ⟨e, he, -, hsole⟩ := (h.ownsName_iff htidy hstaged hs).2 hstate
  obtain ⟨e', he', hanswers', -⟩ := (h.ownsName_iff htidy hstaged hs').2 hstate'
  have hsame : e'.listener = e.listener := hsole e'.listener (hname ▸ hanswers')
  refine htidy.owner_unique hs hs' (e := e.listener) ?_ ?_
  · rw [Server.owns_of_endpoint? he]
    exact Nat.one_pos
  · rw [← hsame, Server.owns_of_endpoint? he']
    exact Nat.one_pos

/-- When no task is left that was stopped, a name is bound exactly if a server has it. -/
theorem Housed.isBound_iff (h : b.Housed) (htidy : b.Tidy) (hstaged : b.Staged)
    (habandoned : b.abandoned = []) (name : String) :
    b.site.network.isBound name = true
      ↔ ∃ id s, b.server? id = some s ∧ s.name = name ∧ s.state ≠ .idle := by
  rw [Network.isBound_iff]
  constructor
  · rintro ⟨e, l, hl, hat⟩
    have hlive : l.live = true := by
      simp only [Network.isLiveAt, Bool.and_eq_true] at hat
      exact hat.2
    obtain ⟨id, s, t, x, hs, ht, hx, rfl⟩ := htidy.owner habandoned hl hlive
    have hendpoint : s.endpoint? = some x := (Server.endpoint?_of_task ht).trans hx
    have hbears := (htidy.sound.answers_iff.1 ⟨l, hl, hat⟩).2
    have hnamed := (h.settled s (mem_servers_of_server? hs)).named x hendpoint
    refine ⟨id, s, hs, Option.some.inj (hnamed.symm.trans hbears), fun hidle => ?_⟩
    rw [(Server.endpoint?_eq_none_iff (hstaged.server hs)).2 hidle] at hendpoint
    cases hendpoint
  · rintro ⟨id, s, hs, rfl, hstate⟩
    obtain ⟨e, -, hanswers, -⟩ := (h.ownsName_iff htidy hstaged hs).2 hstate
    exact ⟨e.listener, hanswers⟩

/-- A running server that is idle at a quiet moment waits to bind again. -/
theorem Housed.waits (h : b.Housed) (hstaged : b.Staged) (hq : b.Quiet)
    (hs : b.server? id = some s) (hrun : s.isRunning = true) (hidle : s.state = .idle) :
    ∃ time, s.wait? = some time ∧ 0 < time ∧ time ≤ s.backoff := by
  have hnone := (Server.endpoint?_eq_none_iff (hstaged.server hs)).2 hidle
  rcases Server.stalled_of_move (hq.stalled hs) with ht | ⟨time, ht⟩ | ⟨e, n, ht, -⟩
    | ⟨e, c, after, n, ht, -⟩ | ⟨e, c, u, n, ht, -⟩
  · rw [Server.isRunning, ht] at hrun
    cases hrun
  · have hwait : s.wait? = some (time + 1) := Server.wait?_of_task ht
    exact ⟨time + 1, hwait, Nat.succ_pos time,
      (h.settled s (mem_servers_of_server? hs)).patient _ hwait⟩
  · cases hnone.symm.trans (Server.endpoint?_of_task ht)
  · cases hnone.symm.trans (Server.endpoint?_of_task ht)
  · cases hnone.symm.trans (Server.endpoint?_of_task ht)

/-! ## Servers that rest -/

/-- The time that passes in an act. -/
def Act.duration : Act → Nat
  | .elapse time => time
  | _ => 0

theorem elapse_zero (s : Server) : s.elapse 0 = s := by
  obtain ⟨name, handler, buffer, backoff, state, task⟩ := s
  unfold Server.elapse
  split
  · rename_i rest ht
    cases ht
    rfl
  · rfl

theorem isRunning_elapse (s : Server) (time : Nat) : (s.elapse time).isRunning = s.isRunning := by
  unfold Server.elapse
  split
  · rename_i rest ht
    simp [Server.isRunning, ht]
  · rfl

theorem wait?_elapse {wait : Nat} (h : s.wait? = some wait) (time : Nat) :
    (s.elapse time).wait? = some (wait - time) := by
  unfold Server.wait? at h
  split at h
  · rename_i rest ht
    cases h
    simp only [Server.elapse, ht]
    rfl
  · cases h

theorem server?_set_ne {s' : Server} {actor : ServerId}
    (hservers : b'.servers = b.servers.set actor.index s') (hne : id ≠ actor) :
    b'.server? id = b.server? id := by
  rw [server?, hservers]
  exact List.getElem?_set_ne fun hi => hne (congrArg ServerId.mk hi.symm)

/-- A server stays as it is while others act. -/
theorem Change.resting (h : Change b a b') (hs : b.server? id = some s) (ha : a.actor? ≠ some id)
    (htime : ∀ time, a ≠ .elapse time) : b'.server? id = some s := by
  have hs' : b.servers[id.index]? = some s := hs
  have hother (actor : ServerId) (hactor : some actor ≠ some id) : id ≠ actor := fun heq =>
    hactor (congrArg some heq.symm)
  cases h with
  | add name handler buffer backoff =>
    exact (List.getElem?_append_left (List.getElem?_eq_some_iff.1 hs').1).trans hs'
  | start actor => exact (server?_set_ne rfl (hother actor ha)).trans hs
  | shutdown actor => exact (server?_set_ne rfl (hother actor ha)).trans hs
  | move actor s₀ s' b' hs₀ hstep hservers =>
    exact (server?_set_ne hservers (hother actor ha)).trans hs
  | elapse time => exact absurd rfl (htime time)
  | send link bytes =>
    rw [server?, servers_putOff]
    exact hs
  | _ => exact hs

/-- What others do only takes time from a server. -/
theorem resting_act (h : b.Tidy) (hs : b.server? id = some s) (ha : a.actor? ≠ some id) :
    (b.act a).server? id = some (s.elapse a.duration) := by
  by_cases htime : ∃ time, a = .elapse time
  · obtain ⟨time, rfl⟩ := htime
    have hs' : b.servers[id.index]? = some s := hs
    simp [act, server?, elapse, hs', Act.duration]
  · have hnow : s.elapse a.duration = s := by
      cases a with
      | elapse time => exact absurd ⟨time, rfl⟩ htime
      | _ => exact elapse_zero s
    rw [hnow]
    exact (change_act h a).resting hs ha fun time heq => htime ⟨time, heq⟩

/-- A server that runs goes on unless it is shut down. -/
theorem running_act (h : b.Tidy) (hs : b.server? id = some s) (hrun : s.isRunning = true)
    (ha : a ≠ .shutdown id) : ∃ s', (b.act a).server? id = some s' ∧ s'.isRunning = true := by
  by_cases hactor : a.actor? = some id
  · cases a with
    | start i =>
      cases hactor
      rw [act, start_running hs hrun]
      exact ⟨s, hs, hrun⟩
    | shutdown i =>
      cases hactor
      exact absurd rfl ha
    | move i =>
      cases hactor
      rw [act]
      rcases hm : b.moveServer id with _ | b'
      · exact ⟨s, hs, hrun⟩
      · obtain ⟨s₀, s', site', hs₀, hstep, -, hservers, -, -⟩ := h.step_of_moveServer hm
        refine ⟨s', ?_, hstep.isRunning⟩
        rw [Option.getD_some, server?, hservers]
        exact List.getElem?_set_self (List.getElem?_eq_some_iff.1 hs₀).1
    | _ => cases hactor
  · exact ⟨_, resting_act h hs hactor, (isRunning_elapse s a.duration).trans hrun⟩

theorem running_run (h : b.Tidy) (hs : b.server? id = some s) (hrun : s.isRunning = true)
    {acts : List Act} (hacts : .shutdown id ∉ acts) :
    ∃ s', (b.run acts).server? id = some s' ∧ s'.isRunning = true := by
  induction acts generalizing b s with
  | nil => exact ⟨s, hs, hrun⟩
  | cons a acts ih =>
    have hfirst : a ≠ .shutdown id := fun heq => hacts (heq ▸ List.mem_cons_self)
    obtain ⟨s', hs', hrun'⟩ := running_act h hs hrun hfirst
    exact ih (h.act a) hs' hrun' fun hmem => hacts (List.mem_cons_of_mem a hmem)

/-! ## Servers that wait -/

/-- The time that passes in the course of a run. -/
def duration : List Act → Nat
  | [] => 0
  | a :: acts => a.duration + duration acts

theorem isRunning_of_wait? {wait : Nat} (h : s.wait? = some wait) : s.isRunning = true := by
  rcases ht : s.task with _ | t
  · cases (Server.wait?_of_idle ht).symm.trans h
  · rw [Server.isRunning, ht]
    rfl

theorem waiting_act (h : b.Tidy) (hs : b.server? id = some s) {wait : Nat}
    (hwait : s.wait? = some wait) (hmove : a ≠ .move id) (hshutdown : a ≠ .shutdown id) :
    ∃ s', (b.act a).server? id = some s' ∧ s'.profile = s.profile
      ∧ s'.wait? = some (wait - a.duration) := by
  by_cases hactor : a.actor? = some id
  · cases a with
    | start i =>
      cases hactor
      rw [act, start_running hs (isRunning_of_wait? hwait)]
      exact ⟨s, hs, rfl, hwait⟩
    | shutdown i =>
      cases hactor
      exact absurd rfl hshutdown
    | move i =>
      cases hactor
      exact absurd rfl hmove
    | _ => cases hactor
  · exact ⟨_, resting_act h hs hactor, elapse_profile s a.duration, wait?_elapse hwait a.duration⟩

/-- A server that waits does nothing but wait until it moves or is shut down. -/
theorem waiting_run (h : b.Tidy) (hs : b.server? id = some s) {wait : Nat}
    (hwait : s.wait? = some wait) {acts : List Act} (hmove : .move id ∉ acts)
    (hshutdown : .shutdown id ∉ acts) :
    ∃ s', (b.run acts).server? id = some s' ∧ s'.profile = s.profile
      ∧ s'.wait? = some (wait - duration acts) := by
  induction acts generalizing b s wait with
  | nil => exact ⟨s, hs, rfl, hwait⟩
  | cons a acts ih =>
    have hfirst : a ≠ .move id := fun heq => hmove (heq ▸ List.mem_cons_self)
    have hfirst' : a ≠ .shutdown id := fun heq => hshutdown (heq ▸ List.mem_cons_self)
    obtain ⟨s₁, hs₁, hprofile₁, hwait₁⟩ := waiting_act h hs hwait hfirst hfirst'
    obtain ⟨s', hs', hprofile', hwait'⟩ := ih (h.act a) hs₁ hwait₁
      (fun hmem => hmove (List.mem_cons_of_mem a hmem))
      (fun hmem => hshutdown (List.mem_cons_of_mem a hmem))
    refine ⟨s', hs', hprofile'.trans hprofile₁, ?_⟩
    rw [hwait', Nat.sub_sub]
    rfl

/-! ## Servers that are due -/

/-- A server that is about to bind can do so, and its next move is nothing else. -/
theorem step_of_isBinding (h : b.Tidy) (hs : b.server? id = some s) (hb : s.isBinding) :
    b.moveServer id ≠ none ∧ ∃ s', (b.act (.move id)).server? id = some s'
      ∧ s.Step b.site s' (b.act (.move id)).site := by
  have hmove : s.move b.site ≠ none := by
    rcases hb with ht | ht <;> simp [Server.move, ht]
  rcases hm : b.moveServer id with _ | b'
  · rw [moveServer, hs] at hm
    exact absurd (Option.map_eq_none_iff.1 hm) hmove
  · obtain ⟨s₀, s', site', hs₀, hstep, rfl, hservers, -, -⟩ := h.step_of_moveServer hm
    cases hs.symm.trans hs₀
    refine ⟨Option.some_ne_none b', s', ?_, ?_⟩
    · rw [act, hm, Option.getD_some, server?, hservers]
      exact List.getElem?_set_self (List.getElem?_eq_some_iff.1 hs).1
    · rw [act, hm]
      exact hstep

/-- A server came to be listening, with a new listener that is the one of its name. -/
structure Regained (b b' : Switchboard) (s s' : Server) : Prop where
  listening : s'.state = .listening
  owns : s'.OwnsName b'.site.network
  counted : ∀ name, b'.site.network.bindCount name
    = b.site.network.bindCount name + if name = s.name then 1 else 0

/-- A server is idle and waits for as long as it is made to; the network is as it was. -/
structure PutOff (b b' : Switchboard) (s s' : Server) : Prop where
  idle : s'.state = .idle
  waits : s'.wait? = some s.backoff
  network : b'.site.network = b.site.network

/-- A server that is about to bind does so if its name is free, and waits if it is not. -/
theorem Housed.retry (h : b.Housed) (htidy : b.Tidy) (hs : b.server? id = some s)
    (hb : s.isBinding) :
    b.moveServer id ≠ none ∧ ∃ s', (b.act (.move id)).server? id = some s'
      ∧ (b.site.network.isBound s.name = false → Regained b (b.act (.move id)) s s')
      ∧ (b.site.network.isBound s.name = true → PutOff b (b.act (.move id)) s s') := by
  obtain ⟨hmoves, s', hs', hstep⟩ := step_of_isBinding htidy hs hb
  refine ⟨hmoves, s', hs', ?_⟩
  have htidy' := htidy.act (.move id)
  have hhoused' := h.act htidy (.move id)
  generalize b.act (.move id) = b' at *
  obtain ⟨site', servers', turns', abandoned', unsent'⟩ := b'
  simp only at hstep
  have hbusy {t : Task} (ht : s.task = some t) (hstarting : t ≠ .starting)
      (hwaiting : t ≠ .waiting 0) : False := by
    rcases hb with hb | hb
    · exact hstarting (Option.some.inj (ht.symm.trans hb))
    · exact hwaiting (Option.some.inj (ht.symm.trans hb))
  cases hstep with
  | bound _ hfree =>
    refine ⟨fun _ => ⟨rfl, ?_, fun name => ?_⟩, fun hbound => ?_⟩
    · have hanswers := hhoused'.answers htidy' hs' rfl
      exact ⟨_, rfl, hanswers, fun e' he' => hhoused'.exclusive _ _ e' hanswers he'⟩
    · rw [htidy'.sound.bindCount_eq, htidy.sound.bindCount_eq, Site.network_log,
        Site.network_withNetwork, Network.bound_openListener, List.count_append]
      by_cases hname : name = s.name
      · simp [hname]
      · simp [hname, Ne.symm hname]
    · cases hfree.symm.trans hbound
  | refused _ hbound =>
    refine ⟨fun hfree => ?_, fun _ => ⟨rfl, rfl, rfl⟩⟩
    cases hfree.symm.trans hbound
  | accepted e conn n ht => exact (hbusy ht nofun nofun).elim
  | notAccepted e error n ht => exact (hbusy ht nofun nofun).elim
  | heard e conn after bytes n ht => exact (hbusy ht nofun nofun).elim
  | answered e conn bytes ht => exact (hbusy ht nofun nofun).elim
  | parted e conn after n ht => exact (hbusy ht nofun nofun).elim
  | unheard e conn after error n ht => exact (hbusy ht nofun nofun).elim
  | told e conn u count n ht => exact (hbusy ht nofun nofun).elim
  | cutOff e conn u error n ht => exact (hbusy ht nofun nofun).elim

/-! ## Every run -/

/-- In every run, with any number of servers of the same name: a server is listening or connected
exactly if it has the one listener that exists of its name, and no two servers of a name are. One
that is not running is idle, and an idle one has no endpoint. At quiet moments, an idle server that
is running waits no longer than it is made to, and a name is bound exactly if a server of that name
is not idle. A server that waits is due after that time, whatever others do; when it is due it binds
if its name is free and waits once more if not. No server stops unless it is shut down. -/
theorem names_owned_and_regained (host : Host) (acts : List Act) :
    let b := (create (.inMemory host)).run acts
    (∀ id s, b.server? id = some s →
        (s.state = .listening ∨ s.state = .connected ↔ s.OwnsName b.site.network)
          ∧ (s.state = .idle → s.endpoint? = none)
          ∧ (s.isRunning = false → s.state = .idle)
          ∧ ∀ id' s', b.server? id' = some s' → s'.name = s.name → s.state ≠ .idle →
              s'.state ≠ .idle → id' = id)
      ∧ (b.Quiet →
          (∀ id s, b.server? id = some s → s.isRunning = true → s.state = .idle →
              ∃ time, s.wait? = some time ∧ 0 < time ∧ time ≤ s.backoff)
            ∧ ∀ name, b.site.network.isBound name = true
                ↔ ∃ id s, b.server? id = some s ∧ s.name = name ∧ s.state ≠ .idle)
      ∧ (∀ id s time, b.server? id = some s → s.wait? = some time →
          ∀ later, .move id ∉ later → .shutdown id ∉ later →
            ∃ s', (b.run later).server? id = some s' ∧ s'.profile = s.profile
              ∧ s'.wait? = some (time - duration later))
      ∧ (∀ id s, b.server? id = some s → s.wait? = some 0 →
          b.moveServer id ≠ none ∧ ∃ s', (b.act (.move id)).server? id = some s'
            ∧ (b.site.network.isBound s.name = false → Regained b (b.act (.move id)) s s')
            ∧ (b.site.network.isBound s.name = true → PutOff b (b.act (.move id)) s s'))
      ∧ ∀ id s, b.server? id = some s → s.isRunning = true →
          ∀ later, .shutdown id ∉ later →
            ∃ s', (b.run later).server? id = some s' ∧ s'.isRunning = true := by
  intro b
  have htidy : b.Tidy := (tidy_create host).run acts
  have hstaged : b.Staged := (staged_create _).run acts
  have hhoused : b.Housed := (housed_create host).run (tidy_create host) acts
  refine ⟨fun id s hs => ⟨?_, ?_, ?_, ?_⟩, fun hq => ⟨?_, ?_⟩, ?_, ?_, ?_⟩
  · rw [hhoused.ownsName_iff htidy hstaged hs]
    cases s.state <;> simp
  · exact (Server.endpoint?_eq_none_iff (hstaged.server hs)).2
  · intro hstopped
    rw [hstaged.server hs]
    exact Server.stage_of_idle (by simpa [Server.isRunning] using hstopped)
  · intro id' s' hs' hname hstate hstate'
    exact hhoused.unique htidy hstaged hs hs' hname hstate hstate'
  · intro id s hs hrun hidle
    exact hhoused.waits hstaged hq hs hrun hidle
  · exact hhoused.isBound_iff htidy hstaged hq.2.2.1
  · intro id s time hs hwait later hmove hshutdown
    exact waiting_run htidy hs hwait hmove hshutdown
  · intro id s hs hdue
    have hb : s.isBinding := by
      unfold Server.wait? at hdue
      split at hdue
      · rename_i rest ht
        cases hdue
        exact .inr ht
      · cases hdue
    exact hhoused.retry htidy hs hb
  · intro id s hs hrun later hshutdown
    exact running_run htidy hs hrun hshutdown

/-- Two servers have one name; the second comes too late. -/
def contention : List Act :=
  [.add "desk" (.callback .echo) 64 5, .add "desk" (.callback .echo) 64 3, .start ⟨0⟩, .start ⟨1⟩,
    .move ⟨0⟩, .move ⟨1⟩]

/-- The first of two servers breaks down, and time passes. -/
def vacancy : List Act := [.failAccept "desk", .move ⟨0⟩, .elapse 3]

/-- Both servers of a name are where they have to be, and the second has its turn when the first
has lost the name. -/
theorem contention_resolved :
    let b := lobby.run contention
    let later := lobby.run (contention ++ vacancy)
    b.Quiet
      ∧ (∃ s, b.server? ⟨0⟩ = some s ∧ s.OwnsName b.site.network)
      ∧ (∃ s time, b.server? ⟨1⟩ = some s ∧ s.wait? = some time ∧ 0 < time ∧ time ≤ s.backoff)
      ∧ b.site.network.isBound "desk" = true
      ∧ (∃ s, later.server? ⟨0⟩ = some s ∧ s.isRunning = true)
      ∧ (∃ s, later.server? ⟨1⟩ = some s ∧ s.wait? = some 0)
      ∧ ∃ s s', later.server? ⟨1⟩ = some s ∧ (later.act (.move ⟨1⟩)).server? ⟨1⟩ = some s'
          ∧ Regained later (later.act (.move ⟨1⟩)) s s' := by
  intro b later
  obtain ⟨howned, hquiet, hwaits, -, hruns⟩ := names_owned_and_regained (.fresh 8) contention
  obtain ⟨-, -, -, hretry, -⟩ := names_owned_and_regained (.fresh 8) (contention ++ vacancy)
  have hq : b.Quiet := by
    refine ⟨fun id => ?_, rfl, rfl, rfl⟩
    obtain ⟨_ | _ | index⟩ := id
    · rfl
    · rfl
    · rfl
  obtain ⟨hpending, hbound⟩ := hquiet hq
  have hstart : .shutdown ⟨0⟩ ∉ vacancy := by simp [vacancy]
  obtain ⟨time, hwait, hpositive, hpatient⟩ := hpending ⟨1⟩ _ rfl rfl rfl
  obtain ⟨s₁, hs₁, -, hdue⟩ :=
    hwaits ⟨1⟩ _ 3 rfl rfl vacancy (by simp [vacancy]) (by simp [vacancy])
  obtain ⟨-, s', hs', hfree, -⟩ := hretry ⟨1⟩ _ rfl rfl
  refine ⟨hq, ⟨_, rfl, (howned ⟨0⟩ _ rfl).1.1 (.inl rfl)⟩,
    ⟨_, time, rfl, hwait, hpositive, hpatient⟩, (hbound "desk").2 ⟨⟨0⟩, _, rfl, rfl, nofun⟩, ?_,
    ⟨s₁, hs₁, hdue⟩, ⟨_, s', rfl, hs', hfree rfl⟩⟩
  exact hruns ⟨0⟩ _ rfl rfl vacancy hstart

end Switchboard

end KeyBridge
