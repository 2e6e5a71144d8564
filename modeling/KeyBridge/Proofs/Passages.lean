-- SUMMARY: What one connection goes through in one act, whatever the act is.
import KeyBridge.Proofs.Changes
import KeyBridge.Proofs.Ends
import KeyBridge.Proofs.Story

/-!
# Passages

Seen from one connection, there are few things that can happen to a switchboard: it is made, its
client writes or reads, a server takes it, reads from it or writes to it, or it is left alone.
It may also lose its place, for one of six causes. `passage_act` sorts every act into these, so that
a proof about connections goes by the cases of `Passage`.
-/

namespace KeyBridge

namespace Switchboard

variable {b b' : Switchboard}

/-- Nobody has a connection who did not have it before, and the calls on it are the same. -/
structure Retains (b b' : Switchboard) (l : LinkId) : Prop where
  known : l.index < b'.site.network.links.length ↔ l.index < b.site.network.links.length
  queued : ∀ c, c.link = l → b'.Queued c → b.Queued c
  serves : ∀ id c u, c.link = l → b'.Serves id c u → b.Serves id c u
  begun : ∀ k : Call, k.conn.link = l → (b'.Begun k ↔ b.Begun k)

/-- A connection has the place that it had before. -/
structure Keeps (b b' : Switchboard) (l : LinkId) : Prop where
  known : l.index < b'.site.network.links.length ↔ l.index < b.site.network.links.length
  queued : ∀ c, c.link = l → (b'.Queued c ↔ b.Queued c)
  serves : ∀ id c u, c.link = l → (b'.Serves id c u ↔ b.Serves id c u)
  begun : ∀ k : Call, k.conn.link = l → (b'.Begun k ↔ b.Begun k)

theorem Keeps.retains {l : LinkId} (h : Keeps b b' l) : Retains b b' l :=
  ⟨h.known, fun c hc => (h.queued c hc).1, fun id c u hc => (h.serves id c u hc).1, h.begun⟩

theorem Keeps.of_eq (l : LinkId) (hservers : b'.servers = b.servers)
    (hlisteners : b'.site.network.listeners = b.site.network.listeners)
    (hlength : b'.site.network.links.length = b.site.network.links.length)
    (hunawaited : b'.unawaited = b.unawaited) : Keeps b b' l where
  known := by rw [hlength]
  queued _ _ := queued_of_listeners hlisteners
  serves _ _ _ _ := serves_of_servers hservers
  begun _ _ := begun_of_eq hservers hunawaited

/-- Nobody has the host's end of a connection, and no call is on its way there. -/
structure Vacant (b : Switchboard) (l : LinkId) : Prop where
  queued : ∀ c, c.link = l → ¬ b.Queued c
  serves : ∀ id c u, c.link = l → ¬ b.Serves id c u
  begun : ∀ k : Call, k.conn.link = l → ¬ b.Begun k

/-- Why a server may lose its endpoint in its next move. -/
inductive Breakdown (b : Switchboard) (id : ServerId) : Prop where
  | failure : b.site.network.Queues .failure → Breakdown b id
  | broken (c : Conn) (u : List UInt8) : b.Serves id c (.reply u) → c.breakage.isSome →
      Breakdown b id
  /-- The client hung up and there is more to write. -/
  | cutOff (c : Conn) (u : List UInt8) : b.Serves id c (.reply u) → u ≠ [] →
      (b.site.network.link c.link).fromHost.closed = true → Breakdown b id

/-- Why a connection may lose its place in an act. -/
inductive Cause (b : Switchboard) (a : Act) (l : LinkId) : Prop where
  | hungUp : a = .hangUp l → Cause b a l
  | shutDown (id : ServerId) (c : Conn) (u : Errand) : a = .shutdown id → c.link = l →
      b.Serves id c u → Cause b a l
  | letGo (index : Nat) (t : Stray) : a = .letGo index → t ∈ b.abandoned →
      0 < t.task.holds l ∨ 0 < b.site.network.waiting l → Cause b a l
  | parted (id : ServerId) (c : Conn) : a = .move id → c.link = l →
      b.Serves id c (.reply []) → (b.site.network.link l).fromClient.closed = true → Cause b a l
  /-- The server of the listener broke down. -/
  | waited (id : ServerId) : a = .move id → b.Breakdown id → 0 < b.site.network.waiting l →
      Cause b a l
  | brokeDown (id : ServerId) (c : Conn) (u : List UInt8) : a = .move id → c.link = l →
      b.Serves id c (.reply u) → (c.breakage.isSome ∨
        (u ≠ [] ∧ (b.site.network.link l).fromHost.closed = true)) → Cause b a l

/-- What one connection goes through in an act, and what happens on it. -/
inductive Passage (b b' : Switchboard) (a : Act) (l : LinkId) : List Incident → Prop where
  | kept : Keeps b b' l → b'.site.network.link l = b.site.network.link l → Passage b b' a l []
  | left : Retains b b' l → Cause b a l →
      (b'.site.network.link l = b.site.network.link l
        ∨ b'.site.network.link l = (b.site.network.link l).drop) → Passage b b' a l []
  | opened : l.index = b.site.network.links.length →
      b'.site.network.link l = .fresh → b'.Queued ⟨l, none⟩ →
      (∀ c, c.link = l → b'.Queued c → c = ⟨l, none⟩) → Passage b b' a l []
  | broke (name : String) (how : Breakage) : a = .failConn name how →
      l.index = b.site.network.links.length →
      b'.site.network.link l = Link.fresh.drop → b'.Queued ⟨l, some how⟩ →
      (∀ c, c.link = l → b'.Queued c → c = ⟨l, some how⟩) → Passage b b' a l [.broke l how]
  | asked (bytes : List UInt8) : Keeps b b' l → a = .send l bytes → bytes ≠ [] →
      (b.site.network.link l).fromClient.closed = false →
      b'.site.network.link l = (b.site.network.link l).pour bytes →
      Passage b b' a l [.asked l bytes]
  | flushed (bytes : List UInt8) : Keeps b b' l → (l, bytes) ∈ b.unsent →
      (b.site.network.link l).fromClient.closed = false →
      b'.site.network.link l = (b.site.network.link l).pour bytes → Passage b b' a l []
  | received : Keeps b b' l → b'.site.network.link l = (b.site.network.link l).withReply [] →
      Passage b b' a l [.received l (b.site.network.link l).fromHost.bytes]
  | accepted (id : ServerId) (c : Conn) : c.link = l → b.Queued c → b'.Serves id c (.reply []) →
      b'.site.network.link l = b.site.network.link l → Passage b b' a l []
  /-- A message is read, and handed over to the handler. -/
  | heard (id : ServerId) (s : Server) (c after : Conn) (bytes : List UInt8) (n : Network) :
      b.server? id = some s → c.link = l → b.Serves id c (.reply []) → bytes ≠ [] →
      c.read s.buffer b.site.network = (.done bytes, after, n) →
      b'.site.network.link l = n.link l → b'.Serves id after (.call bytes) → Passage b b' a l []
  | answered (id : ServerId) (k : Call) : k.conn.link = l → b.Begun k →
      b.Serves id k.conn (.call k.bytes) → b'.site.network.link l = b.site.network.link l →
      b'.Serves id k.conn
        (.reply (Wire.encode (k.handler.run (Wire.decode k.bytes) b.site.host).1.text)) →
      Passage b b' a l [k.incident b.site.host]
  /-- A call is carried out although its server was shut down. -/
  | carriedOut (k : Call) : k.conn.link = l → k ∈ b.unawaited →
      b'.site.network = b.site.network → b'.Vacant l → Passage b b' a l [k.incident b.site.host]
  | told (id : ServerId) (c : Conn) (unsent : List UInt8) (count : Nat) (n : Network) :
      c.link = l → b.Serves id c (.reply unsent) → unsent ≠ [] →
      c.write unsent b.site.network = (.done count, n) →
      b'.site.network.link l = n.link l → b'.Serves id c (.reply (unsent.drop count)) →
      Passage b b' a l []

theorem Passage.same (a : Act) (l : LinkId) : Passage b b a l [] :=
  .kept (.of_eq l rfl rfl rfl rfl) rfl

/-! ## Moves -/

/-- A server of a board made a step, and nothing else happened. -/
structure Moved (b b' : Switchboard) (id : ServerId) (s s' : Server) (site' : Site) : Prop where
  tidy : b.Tidy
  was : b.server? id = some s
  step : s.Step b.site s' site'
  site_eq : b'.site = site'
  servers_eq : b'.servers = b.servers.set id.index s'
  unawaited_eq : b'.unawaited = b.unawaited

section Moved

variable {id : ServerId} {s s' : Server} {site' : Site} {l : LinkId}

theorem Moved.serves {u : Errand} {e : Endpoint} {c : Conn} (hm : Moved b b' id s s' site')
    (ht : s.task = some (.serving e c u)) : b.Serves id c u :=
  ⟨s, e, hm.was, ht⟩

/-- A server that has no connection has no call on it either. -/
theorem call?_ne_some {k : Call} (hnone : s.holds l = 0) (hk : k.conn.link = l) :
    s.call? ≠ some k := by
  intro hcall
  have hone := Server.holds_of_call? hcall
  rw [hk, hnone] at hone
  cases hone

theorem Moved.retains (hm : Moved b b' id s s' site')
    (hqueued : ∀ c : Conn, c.link = l → site'.network.Queues (.conn c) → b.Queued c)
    (hnone : s'.holds l = 0) (hcall : ∀ k : Call, k.conn.link = l → s.call? ≠ some k) :
    Retains b b' l where
  known := by rw [hm.site_eq, hm.step.length_links hm.tidy.sound]
  queued c hc hq := by
    rw [Queued, hm.site_eq] at hq
    exact hqueued c hc hq
  serves id' c u hl hc := by
    rcases serves_of_set hm.servers_eq hc with ⟨-, e, ht⟩ | ⟨-, hc⟩
    · rw [Server.holds_of_task ht] at hnone
      simp [Task.holds, hl] at hnone
    · exact hc
  begun k hk := begun_of_set hm.was hm.servers_eq hm.unawaited_eq
    (iff_of_false (call?_ne_some hnone hk) (hcall k hk))

/-- A move leaves everyone else's connections alone. -/
theorem Moved.keeps (hm : Moved b b' id s s' site')
    (hqueued : ∀ c : Conn, c.link = l → (site'.network.Queues (.conn c) ↔ b.Queued c))
    (hnone : s.holds l = 0) (hnone' : s'.holds l = 0) : Keeps b b' l := by
  have hretains := hm.retains (fun c hc => (hqueued c hc).1) hnone' fun k => call?_ne_some hnone
  refine ⟨hretains.known, fun c hc => ?_, fun id' c u hl => ⟨hretains.serves id' c u hl, ?_⟩,
    hretains.begun⟩
  · rw [Queued, hm.site_eq]
    exact hqueued c hc
  · refine fun hc => serves_set_ne hm.servers_eq ?_ hc
    rintro rfl
    have hone := hc.holds_eq hm.was
    rw [hl] at hone
    omega

theorem not_mem_queueOf {n : Network} {e : ListenerId} {l : LinkId}
    (h : ¬ (n.queueOf e).any (Incoming.isOn l)) (c : Conn) (hc : c.link = l) :
    Incoming.conn c ∉ n.queueOf e :=
  fun hmem => h (List.any_eq_true.2 ⟨_, hmem, by simp [Incoming.isOn, hc]⟩)

theorem holds_serving {s : Server} {e : Endpoint} {c : Conn} {u : Errand}
    (ht : s.task = some (.serving e c u)) (hc : c.link ≠ l) : s.holds l = 0 := by
  rw [Server.holds_of_task ht]
  simp [Task.holds, hc]

/-- A server that drops its listener leaves its client and all who wait. -/
theorem Moved.breakDown (hm : Moved b b' id s s' site') {n : Network} {e : Endpoint}
    (hnet : site'.network = n.dropListener e.listener)
    (hnone : s'.holds l = 0) (hcall : s.call? = none) (hbreak : b.Breakdown id)
    (hwhy : ∀ c u, c.link = l → b.Serves id c (.reply u) → c.breakage.isSome ∨
      (u ≠ [] ∧ (b.site.network.link l).fromHost.closed = true))
    (hqueues : ∀ c : Conn, n.Queues (.conn c) ↔ b.Queued c)
    (hwaiting : n.waiting l = b.site.network.waiting l)
    (hlink : n.link l = b.site.network.link l ∨
      ((∃ c u, c.link = l ∧ b.Serves id c (.reply u))
        ∧ n.link l = (b.site.network.link l).drop)) :
    Passage b b' (.move id) l [] := by
  have hb : b'.site.network = n.dropListener e.listener := by rw [hm.site_eq, hnet]
  have hretains : Retains b b' l := by
    refine hm.retains (fun c _ hq => (hqueues c).1 ?_) hnone (by simp [hcall])
    exact Network.Queues.of_dropListener (hnet ▸ hq)
  by_cases hqueue : (n.queueOf e.listener).any (Incoming.isOn l) = true
  · have hpos := Network.any_queueOf hqueue
    refine .left hretains (.waited id rfl hbreak (hwaiting ▸ hpos)) (.inr ?_)
    rw [hb, Network.link_dropListener, if_pos hqueue]
    rcases hlink with hlink | ⟨-, hlink⟩ <;> rw [hlink]
    exact Link.drop_drop _
  · have hsame : b'.site.network.link l = n.link l := by
      rw [hb, Network.link_dropListener, if_neg hqueue]
    by_cases hserves : ∃ c u, c.link = l ∧ b.Serves id c (.reply u)
    · obtain ⟨c, u, hc, hs'⟩ := hserves
      refine .left hretains (.brokeDown id c u rfl hc hs' (hwhy c u hc hs')) ?_
      rw [hsame]
      rcases hlink with hlink | ⟨-, hlink⟩
      · exact .inl hlink
      · exact .inr hlink
    · refine .kept (hm.keeps ?_ ?_ hnone) ?_
      · intro c hc
        rw [hnet, Network.queues_dropListener (not_mem_queueOf hqueue c hc)]
        exact hqueues c
      · rcases ht : s.task with _ | t
        · simp [Server.holds, ht]
        · cases t with
          | serving e c u =>
            cases u with
            | call bytes => exact absurd (Server.call?_of_task ht) (by simp [hcall])
            | reply u => exact holds_serving ht fun hc => hserves ⟨c, u, hc, hm.serves ht⟩
          | _ => rw [Server.holds_of_task ht]; rfl
      · rw [hsame]
        rcases hlink with hlink | ⟨hc, -⟩
        · exact hlink
        · exact absurd hc hserves

/-- The listener of a task exists, so it fails on purpose only. -/
theorem Tidy.queues_failure (h : b.Tidy) {e : Endpoint} {error : NetworkError} {n : Network}
    (hs : b.server? id = some s) (ht : s.task = some (.listening e))
    (ha : b.site.network.accept e.listener = (.failed error, n)) :
    b.site.network.Queues .failure := by
  rcases Network.accept_failed ha with ⟨hnone, -⟩ | ⟨l, hl, hatt, -⟩ | ⟨l, rest, hl, hq, -⟩
  · have howns := h.owns_le hs e.listener
    rw [Server.owns_of_task ht] at howns
    simp [Task.owns, Task.endpoint?, Network.lives, Network.isLive, hnone] at howns
  · rw [h.sound.attached l (List.mem_of_getElem? hl)] at hatt
    cases hatt
  · exact ⟨l, List.mem_of_getElem? hl, by simp [hq]⟩

end Moved

/-! ## What a step of a server is to a connection -/

theorem observe_move {id : ServerId} {s : Server} (hs : b.server? id = some s) :
    b.observe (.move id) = s.call?.toList.map fun k => k.incident b.site.host := by
  simp [observe, carriedOut, hs]

theorem observe_of_stalled {id : ServerId} (hm : b.moveServer id = none) :
    b.observe (.move id) = [] := by
  rcases hs : b.server? id with _ | s
  · simp [observe, carriedOut, hs]
  · have hstalled : s.move b.site = none := by simpa [moveServer, hs] using hm
    simp [observe_move hs, Server.call?_of_stalled hstalled]

namespace Moved

variable {id : ServerId} {s : Server} {e : Endpoint} {c after : Conn} {u bytes : List UInt8}
  {n : Network} {error : NetworkError} {count : Nat} {l : LinkId}

theorem accepted
    (hm : Moved b b' id s (s.turnTo .connected (.serving e c (.reply [])))
      ((b.site.withNetwork n).log (s.announcement .connected)))
    (ht : s.task = some (.listening e))
    (ha : b.site.network.accept e.listener = (.done c, n)) : Passage b b' (.move id) l [] := by
  have hlink : b'.site.network.link l = b.site.network.link l := by
    obtain ⟨_, _, -, -, rfl⟩ := Network.accept_done ha
    rw [hm.site_eq]
    rfl
  by_cases hc : c.link = l
  · exact .accepted id c hc (Network.queues_of_accept_done ha)
      (serves_set_self hm.was hm.servers_eq rfl) hlink
  · refine .kept (hm.keeps ?_ ?_ (holds_serving (Server.task_turnTo ..) hc)) hlink
    · intro c' hc'
      refine Network.queues_accept_done ha fun heq => hc ?_
      cases heq
      exact hc'
    · rw [Server.holds_of_task ht]
      rfl

theorem notAccepted
    (hm : Moved b b' id s (s.turnTo .idle (.waiting s.backoff))
      ((b.site.withNetwork (n.dropListener e.listener)).log
        (.pipeRebuild s.name error.message :: s.announcement .idle)))
    (ht : s.task = some (.listening e))
    (ha : b.site.network.accept e.listener = (.failed error, n)) :
    Passage b b' (.move id) l [] := by
  have hsound := hm.tidy.sound
  refine hm.breakDown rfl rfl (by simp [Server.call?, ht])
    (.failure (hm.tidy.queues_failure hm.was ht ha)) ?_
    (fun c => Network.queues_accept_failed hsound ha (by simp))
    (hsound.waiting_accept_failed ha l) (.inl ?_)
  · intro c u _ hserves
    obtain ⟨x, y, hx, hy⟩ := hserves
    cases hm.was.symm.trans hx
    cases ht.symm.trans hy
  · rcases hsound.accept_failed ha with rfl | ⟨_, _, -, -, rfl⟩ <;> rfl

theorem heard
    (hm : Moved b b' id s (s.turnTo s.state (.serving e after (.call bytes)))
      (b.site.withNetwork n))
    (ht : s.task = some (.serving e c (.reply []))) (hne : bytes ≠ [])
    (hr : c.read s.buffer b.site.network = (.done bytes, after, n)) :
    Passage b b' (.move id) l [] := by
  have hframe := Conn.read_frame hr
  by_cases hc : c.link = l
  · exact .heard id s c after bytes n hm.was hc (hm.serves ht) hne hr (by rw [hm.site_eq]; rfl)
      (serves_set_self hm.was hm.servers_eq rfl)
  · have hafter : after.link ≠ l := hframe.1.symm ▸ hc
    refine .kept (hm.keeps ?_ (holds_serving ht hc)
      (holds_serving (Server.task_turnTo ..) hafter)) ?_
    · exact fun c' _ => Network.queues_of_listeners hframe.2.1
    · rw [hm.site_eq]
      exact hframe.2.2.2 l (Ne.symm hc)

theorem answered {k : Call} {u : Errand} {site' : Site}
    (hm : Moved b b' id s (s.turnTo s.state (.serving e k.conn u)) site')
    (hk : s.call? = some k)
    (hu : u = .reply (Wire.encode (k.handler.run (Wire.decode k.bytes) b.site.host).1.text))
    (hnet : site'.network = b.site.network) :
    Passage b b' (.move id) l (Incident.on l [k.incident b.site.host]) := by
  have hserves := serves_of_call? hm.was hk
  have hlink : b'.site.network.link l = b.site.network.link l := by rw [hm.site_eq, hnet]
  rw [Incident.on_singleton, Call.link_incident]
  by_cases hl : k.conn.link = l
  · rw [if_pos hl]
    subst hu
    exact .answered id k hl (.inr ⟨id, s, hm.was, hk⟩) hserves hlink
      (serves_set_self hm.was hm.servers_eq rfl)
  · rw [if_neg hl]
    obtain ⟨-, ht⟩ := Server.call?_eq_some hk
    refine .kept (hm.keeps ?_ (holds_serving ht hl) (holds_serving (Server.task_turnTo ..) hl)) hlink
    exact fun c _ => by rw [hnet]; exact Iff.rfl

theorem parted
    (hm : Moved b b' id s (s.turnTo .listening (.listening e))
      ((b.site.withNetwork (after.drop n)).log
        (.pipeClientDisconnected s.name :: s.announcement .listening)))
    (hbuffer : 0 < s.buffer) (ht : s.task = some (.serving e c (.reply [])))
    (hr : c.read s.buffer b.site.network = (.done [], after, n)) :
    Passage b b' (.move id) l [] := by
  obtain ⟨rfl, rfl, -, hclosed⟩ := Conn.read_nothing hbuffer hr
  have hlink : b'.site.network.link l = (b.site.network.dropLink after.link).link l := by
    rw [hm.site_eq]
    rfl
  rw [Network.link_dropLink] at hlink
  by_cases hc : after.link = l
  · rw [if_pos hc.symm] at hlink
    exact .left (hm.retains (fun _ _ hq => hq) rfl (by simp [Server.call?, ht]))
      (.parted id after rfl hc (hm.serves ht) (hc ▸ hclosed)) (.inr hlink)
  · rw [if_neg (Ne.symm hc)] at hlink
    exact .kept (hm.keeps (fun _ _ => Iff.rfl) (holds_serving ht hc) rfl) hlink

/-- A server that drops its listener and its client drops no other client. -/
theorem dropBoth
    (hm : Moved b b' id s (s.turnTo .idle (.waiting s.backoff))
      ((b.site.withNetwork ((c.drop b.site.network).dropListener e.listener)).log
        (.pipeRebuild s.name error.message :: s.announcement .idle)))
    (ht : s.task = some (.serving e c (.reply u))) (hbreak : b.Breakdown id)
    (hwhy : c.breakage.isSome ∨ (u ≠ [] ∧ (b.site.network.link c.link).fromHost.closed = true)) :
    Passage b b' (.move id) l [] := by
  refine hm.breakDown rfl rfl (by simp [Server.call?, ht]) hbreak ?_ (fun c => Iff.rfl) rfl ?_
  · intro c' u' hc hserves
    obtain ⟨x, y, hx, hy⟩ := hserves
    cases hm.was.symm.trans hx
    cases ht.symm.trans hy
    exact hc ▸ hwhy
  · rw [Conn.drop, Network.link_dropLink]
    split
    · rename_i hl
      exact .inr ⟨⟨c, u, hl.symm, hm.serves ht⟩, rfl⟩
    · exact .inl rfl

theorem unheard
    (hm : Moved b b' id s (s.turnTo .idle (.waiting s.backoff))
      ((b.site.withNetwork ((after.drop n).dropListener e.listener)).log
        (.pipeRebuild s.name error.message :: s.announcement .idle)))
    (ht : s.task = some (.serving e c (.reply [])))
    (hr : c.read s.buffer b.site.network = (.failed error, after, n)) :
    Passage b b' (.move id) l [] := by
  obtain ⟨rfl, rfl, hbroken⟩ := Conn.read_failed hr
  have hwhole : after.breakage.isSome := by simp [hbroken]
  exact hm.dropBoth ht (.broken after [] (hm.serves ht) hwhole) (.inl hwhole)

theorem told
    (hm : Moved b b' id s (s.turnTo s.state (.serving e c (.reply (u.drop count))))
      (b.site.withNetwork n))
    (ht : s.task = some (.serving e c (.reply u))) (hne : u ≠ [])
    (hw : c.write u b.site.network = (.done count, n)) : Passage b b' (.move id) l [] := by
  have hframe := Conn.write_frame hw
  by_cases hc : c.link = l
  · exact .told id c u count n hc (hm.serves ht) hne hw (by rw [hm.site_eq]; rfl)
      (serves_set_self hm.was hm.servers_eq rfl)
  · refine .kept (hm.keeps ?_ (holds_serving ht hc) (holds_serving (Server.task_turnTo ..) hc)) ?_
    · exact fun c' _ => Network.queues_of_listeners hframe.1
    · rw [hm.site_eq]
      exact hframe.2.2 l (Ne.symm hc)

theorem cutOff
    (hm : Moved b b' id s (s.turnTo .idle (.waiting s.backoff))
      ((b.site.withNetwork ((c.drop n).dropListener e.listener)).log
        (.pipeRebuild s.name error.message :: s.announcement .idle)))
    (ht : s.task = some (.serving e c (.reply u))) (hne : u ≠ [])
    (hw : c.write u b.site.network = (.failed error, n)) : Passage b b' (.move id) l [] := by
  obtain ⟨rfl, hwhy⟩ := Conn.write_failed hw
  rcases hwhy with hbroken | hclosed
  · exact hm.dropBoth ht (.broken c u (hm.serves ht) hbroken) (.inl hbroken)
  · exact hm.dropBoth ht (.cutOff c u (hm.serves ht) hne hclosed) (.inr ⟨hne, hclosed⟩)

/-- What a move is to a connection, unless it is the answer to a call. -/
theorem silent {s' : Server} {site' : Site} (hm : Moved b b' id s s' site')
    (hbuffer : 0 < s.buffer) (hcall : s.call? = none) : Passage b b' (.move id) l [] := by
  cases hm.step with
  | bound hb =>
    refine .kept (hm.keeps ?_ (Server.holds_of_isBinding hb l) rfl) (by rw [hm.site_eq]; rfl)
    exact fun _ _ => Network.queues_openListener
  | refused hb =>
    exact .kept (hm.keeps (fun _ _ => Iff.rfl) (Server.holds_of_isBinding hb l) rfl)
      (by rw [hm.site_eq]; rfl)
  | accepted e c n ht ha => exact hm.accepted ht ha
  | notAccepted e error n ht ha => exact hm.notAccepted ht ha
  | heard e c after bytes n ht hne hr => exact hm.heard ht hne hr
  | answered e c bytes ht => exact absurd (Server.call?_of_task ht) (by simp [hcall])
  | parted e c after n ht hr => exact hm.parted hbuffer ht hr
  | unheard e c after error n ht hr => exact hm.unheard ht hr
  | told e c u count n ht hne hw => exact hm.told ht hne hw
  | cutOff e c u error n ht hne hw => exact hm.cutOff ht hne hw

end Moved

variable {id : ServerId} {s s' : Server} {site' : Site}

theorem passage_move (h : b.Tidy) (hmove : b.moveServer id = some b')
    (hbuffer : ∀ s ∈ b.servers, 0 < s.buffer) (l : LinkId) :
    Passage b b' (.move id) l (Incident.on l (b.observe (.move id))) := by
  obtain ⟨s, s', site', hs, hstep, hsite, hservers, -, hunawaited, -⟩ := h.step_of_moveServer hmove
  have hm : Moved b b' id s s' site' := ⟨h, hs, hstep, hsite, hservers, hunawaited⟩
  rw [observe_move hs]
  rcases hstep.call?_cases with ⟨hnone, -⟩ | ⟨k, hk, rfl, rfl⟩
  · rw [hnone]
    exact hm.silent (hbuffer s (mem_servers_of_server? hs)) hnone
  · rw [hk]
    exact hm.answered hk rfl rfl

/-! ## Acts -/

theorem passage_add (b : Switchboard) (name : String) (handler : Handler) (buffer backoff : Nat)
    (l : LinkId) : Passage b (b.act (.add name handler buffer backoff))
      (.add name handler buffer backoff) l [] := by
  have hbegun (k : Call) : (b.add (.create name handler buffer backoff)).2.Begun k ↔ b.Begun k :=
    begun_of_perm (.of_eq (pending_add rfl))
  refine .kept ⟨Iff.rfl, fun _ _ => Iff.rfl, fun id c u _ => ⟨?_, ?_⟩, fun k _ => hbegun k⟩ rfl
  · rintro ⟨s, e, hs, ht⟩
    have hs' : (b.servers ++ [Server.create name handler buffer backoff])[id.index]? = some s := hs
    rw [List.getElem?_append] at hs'
    split at hs'
    · exact ⟨s, e, hs', ht⟩
    · rw [List.mem_singleton.1 (List.mem_of_getElem? hs')] at ht
      cases ht
  · rintro ⟨s, e, hs, ht⟩
    refine ⟨s, e, ?_, ht⟩
    have hs' : b.servers[id.index]? = some s := hs
    exact (List.getElem?_append_left (List.getElem?_eq_some_iff.1 hs').1).trans hs'

/-- A server in another state leaves the connections alone that it serves as before. -/
theorem Keeps.of_put {l : LinkId} (hs : b.server? id = some s)
    (hnet : b'.site.network = b.site.network) (hput : b'.servers = b.servers.set id.index s')
    (hsame : ∀ e c u, c.link = l →
      (s'.task = some (.serving e c u) ↔ s.task = some (.serving e c u)))
    (hbegun : ∀ k : Call, b'.Begun k ↔ b.Begun k) : Keeps b b' l where
  known := by rw [hnet]
  queued _ _ := queued_of_listeners (by rw [hnet])
  serves id' c u hl := by
    constructor
    · intro hc
      rcases serves_of_set hput hc with ⟨rfl, e, ht⟩ | ⟨-, hc⟩
      · exact ⟨s, e, hs, (hsame e c u hl).1 ht⟩
      · exact hc
    · intro hc
      by_cases hid : id' = id
      · subst hid
        obtain ⟨x, e, hx, ht⟩ := hc
        cases hs.symm.trans hx
        exact serves_set_self hs hput ((hsame e c u hl).2 ht)
      · exact serves_set_ne hput hid hc
  begun k _ := hbegun k

theorem passage_start (b : Switchboard) (id : ServerId) (l : LinkId) :
    Passage b (b.act (.start id)) (.start id) l [] := by
  rw [act]
  rcases hs : b.server? id with _ | s
  · simpa only [start, hs] using Passage.same _ l
  · rcases ht : s.task with _ | t
    · rw [start_idle hs ht]
      refine .kept (.of_put hs rfl rfl (fun e c u _ => ?_) fun k => ?_) rfl
      · simp [Server.launched, ht]
      · exact begun_of_set hs rfl rfl (by simp [Server.call?, Server.launched, ht])
    · rw [start_running hs (by simp [Server.isRunning, ht])]
      exact .same _ l

theorem passage_shutdown (b : Switchboard) (id : ServerId) (l : LinkId) :
    Passage b (b.act (.shutdown id)) (.shutdown id) l [] := by
  have hbegun (k : Call) : (b.shutdown id).Begun k ↔ b.Begun k :=
    begun_of_perm (pending_shutdown b id)
  rw [act]
  rcases hs : b.server? id with _ | s
  · simpa only [shutdown, hs] using Passage.same _ l
  · rw [shutdown_eq hs] at hbegun ⊢
    by_cases hserves : ∃ c u, c.link = l ∧ b.Serves id c u
    · obtain ⟨c, u, hc, hserves⟩ := hserves
      refine .left ⟨Iff.rfl, fun _ _ hq => hq, fun id' c' u' _ hs' => ?_, fun k _ => hbegun k⟩
        (.shutDown id c u rfl hc hserves) (.inl rfl)
      rcases serves_of_set rfl hs' with ⟨-, e, ht⟩ | ⟨-, hs'⟩
      · cases ht
      · exact hs'
    · refine .kept (.of_put hs rfl rfl (fun e c u hc => ?_) hbegun) rfl
      have hnot : s.task ≠ some (.serving e c u) := fun ht => hserves ⟨c, u, hc, s, e, hs, ht⟩
      simp [hnot, Server.stopped]

/-- A new connection waits at the listener that it was made to; the others stay. -/
theorem passage_newConn (h : b.Tidy) {e : ListenerId} {lis : Listener} (link : Link)
    (breakage : Option Breakage) (hl : b.site.network.listeners[e.index]? = some lis)
    (hb : b' = b.withNetwork ((b.site.network.newLink link).2.enqueue e
      (.conn ⟨(b.site.network.newLink link).1, breakage⟩))) (l : LinkId) :
    if l.index = b.site.network.links.length then
      b'.site.network.link l = link ∧ b'.Queued ⟨l, breakage⟩
        ∧ ∀ c, c.link = l → b'.Queued c → c = ⟨l, breakage⟩
    else Keeps b b' l ∧ b'.site.network.link l = b.site.network.link l := by
  have hlink : b'.site.network.link l = (b.site.network.newLink link).2.link l := by
    rw [hb]
    rfl
  have hqueue (c : Conn) :
      b'.Queued c ↔ c = ⟨⟨b.site.network.links.length⟩, breakage⟩ ∨ b.Queued c := by
    have hnew : Incoming.conn c = .conn ⟨(b.site.network.newLink link).1, breakage⟩ ↔
        c = ⟨⟨b.site.network.links.length⟩, breakage⟩ := by
      rw [Incoming.conn.injEq]
      rfl
    rw [hb, ← hnew]
    exact Network.queues_enqueue (n := (b.site.network.newLink link).2) hl
  rw [hlink, Network.link_newLink]
  obtain ⟨index⟩ := l
  split
  · rename_i hindex
    cases hindex
    refine ⟨rfl, (hqueue _).2 (.inl rfl), fun c hc hq => ?_⟩
    rcases (hqueue c).1 hq with hq | hq
    · exact hq
    · have hlt := Queued.lt h hq
      rw [hc] at hlt
      exact absurd hlt (Nat.lt_irrefl _)
  · rename_i hindex
    refine ⟨⟨?_, fun c hc => ?_, fun id c u _ => ?_, fun k _ => ?_⟩, rfl⟩
    · have hlength : b'.site.network.links.length = b.site.network.links.length + 1 := by
        rw [hb]
        simp [withNetwork, Network.newLink]
      simp only at hindex ⊢
      omega
    · rw [hqueue c]
      refine ⟨fun hq => hq.resolve_left fun heq => ?_, .inr⟩
      rw [heq] at hc
      cases hc
      exact hindex rfl
    · rw [hb]
      exact Iff.rfl
    · rw [hb]
      exact Iff.rfl

theorem passage_connect (h : b.Tidy) (channel : String) (l : LinkId) :
    Passage b (b.act (.connect channel)) (.connect channel) l [] := by
  rcases hc : b.connect channel with error | ⟨link, b'⟩
  · simpa only [act, hc] using Passage.same _ l
  · simp only [act, hc]
    obtain ⟨e, lis, hl, -, -, rfl, hb⟩ := connect_ok h.directory hc
    have hnew := passage_newConn h .fresh none hl hb l
    split at hnew
    · rename_i hindex
      exact .opened hindex hnew.1 hnew.2.1 hnew.2.2
    · exact .kept hnew.1 hnew.2

theorem passage_failConn (h : b.Tidy) (name : String) (how : Breakage) (l : LinkId) :
    Passage b (b.act (.failConn name how)) (.failConn name how) l
      (Incident.on l (b.observe (.failConn name how))) := by
  rcases hr : b.site.network.reach name with error | e
  · simpa [act, observe, failConn_error how hr] using Passage.same _ l
  · obtain ⟨lis, hl, -, -⟩ := Network.reach_ok hr
    simp only [act, observe, failConn_ok how hr, if_true, Incident.on_singleton, Incident.link]
    have hnew := passage_newConn h Link.fresh.drop (some how) hl rfl l
    split at hnew
    · rename_i hindex
      have hid : (⟨b.site.network.links.length⟩ : LinkId) = l := by
        cases l
        exact congrArg _ hindex.symm
      simp only [hid, if_true]
      exact .broke name how rfl hindex hnew.1 hnew.2.1 hnew.2.2
    · rename_i hindex
      have hid : (⟨b.site.network.links.length⟩ : LinkId) ≠ l := by
        intro hid
        cases hid
        exact hindex rfl
      simp only [hid, if_false]
      exact .kept hnew.1 hnew.2

theorem passage_failAccept (b : Switchboard) (name : String) (l : LinkId) :
    Passage b (b.act (.failAccept name)) (.failAccept name) l [] := by
  rcases hr : b.site.network.reach name with error | e
  · simpa [act, failAccept_error hr] using Passage.same _ l
  · obtain ⟨lis, hl, -, -⟩ := Network.reach_ok hr
    simp only [act, failAccept_ok hr]
    refine .kept ⟨Iff.rfl, fun c _ => ?_, fun id c u _ => Iff.rfl, fun _ _ => Iff.rfl⟩ rfl
    exact (Network.queues_enqueue hl).trans (by simp [Queued])

/-- Another state of one connection leaves the others alone. -/
theorem passage_setLink {a : Act} {link : LinkId} (x : Link) {h : List Incident} (l : LinkId)
    (hx : link.index < b.site.network.links.length ∨ x = Link.fresh.drop)
    (hh : ∀ i ∈ h, i.link = link)
    (hnet : b'.site.network = b.site.network.setLink link x) (hservers : b'.servers = b.servers)
    (hunawaited : b'.unawaited = b.unawaited)
    (hself : Keeps b b' link → b'.site.network.link link = x → Passage b b' a link h) :
    Passage b b' a l (Incident.on l h) := by
  have hkeeps (l : LinkId) : Keeps b b' l :=
    .of_eq l hservers (hnet ▸ Network.listeners_setLink ..)
      (hnet ▸ Network.length_links_setLink ..) hunawaited
  by_cases hl : link = l
  · subst hl
    have hon : Incident.on link h = h :=
      List.filter_eq_self.2 fun i hi => decide_eq_true (hh i hi)
    rw [hon]
    exact hself (hkeeps link) (hnet ▸ Network.link_setLink_of_or _ _ _ hx)
  · have hon : Incident.on l h = [] :=
      List.filter_eq_nil_iff.2 fun i hi => by simpa [hh i hi] using hl
    rw [hon]
    exact .kept (hkeeps l) (hnet ▸ Network.link_setLink_ne _ _ (Ne.symm hl))

theorem passage_send (b : Switchboard) (link : LinkId) (bytes : List UInt8) (l : LinkId) :
    Passage b (b.act (.send link bytes)) (.send link bytes) l
      (Incident.on l (b.observe (.send link bytes))) := by
  by_cases hne : bytes = []
  · subst hne
    exact .same _ l
  · rcases hclosed : (b.site.network.link link).fromClient.closed
    · have hobserve : b.observe (.send link bytes) = [.asked link bytes] := by
        simp [observe, send_open hne hclosed, hne, Except.isOk, Except.toBool]
      have hact := congrArg Prod.snd (send_open hne hclosed)
      rw [hobserve]
      refine passage_setLink ((b.site.network.link link).pour bytes) l (.inl (lt_of_open hclosed))
        (by simp [Incident.link]) ?_ ?_ ?_ ?_
      · exact (congrArg (·.site.network) hact).trans (congrArg Site.network (site_putOff ..))
      · exact (congrArg (·.servers) hact).trans (servers_putOff ..)
      · exact (congrArg (·.unawaited) hact).trans (unawaited_putOff ..)
      · intro hkeeps hlink
        exact .asked bytes hkeeps rfl hne hclosed hlink
    · simpa [act, observe, send_closed hne hclosed, Except.isOk, Except.toBool]
        using Passage.same _ l

theorem passage_receive (b : Switchboard) (link : LinkId) (l : LinkId) :
    Passage b (b.act (.receive link)) (.receive link) l
      (Incident.on l (b.observe (.receive link))) := by
  refine passage_setLink ((b.site.network.link link).withReply []) l ?_ ?_ rfl rfl rfl ?_
  · by_cases hlt : link.index < b.site.network.links.length
    · exact .inl hlt
    · rw [Network.link_of_le _ _ (by omega)]
      exact .inr rfl
  · simp [observe, Incident.link]
  · intro hkeeps hlink
    exact .received hkeeps hlink

theorem passage_hangUp (b : Switchboard) (link : LinkId) (l : LinkId) :
    Passage b (b.act (.hangUp link)) (.hangUp link) l [] := by
  have hkeeps : Keeps b (b.act (.hangUp link)) l :=
    .of_eq l rfl rfl (Network.length_links_dropLink ..) rfl
  have hlink : (b.act (.hangUp link)).site.network.link l = _ :=
    Network.link_dropLink b.site.network link l
  by_cases hl : l = link
  · subst hl
    rw [if_pos rfl] at hlink
    exact .left hkeeps.retains (.hungUp rfl) (.inr hlink)
  · rw [if_neg hl] at hlink
    exact .kept hkeeps hlink

theorem passage_write (b : Switchboard) (index : Nat) (l : LinkId) :
    Passage b (b.act (.write index)) (.write index) l [] := by
  rw [act, writeAt]
  split
  · exact .same _ l
  · rename_i link bytes hu
    rw [Network.write_client]
    rcases hclosed : (b.site.network.link link).fromClient.closed
    · by_cases hroom : (b.site.network.link link).fromClient.room = 0
      · simpa [hroom] using Passage.same _ l
      · simp only [hroom, if_false]
        refine passage_setLink (h := []) ((b.site.network.link link).pour bytes) l
          (.inl (lt_of_open hclosed)) (by simp) rfl rfl rfl ?_
        exact fun hkeeps hlink =>
          .flushed bytes hkeeps (List.mem_of_getElem? hu) hclosed hlink
    · simp only [if_true]
      exact .kept (.of_eq l rfl rfl rfl rfl) rfl

theorem passage_letGo (h : b.Tidy) (index : Nat) (l : LinkId) :
    Passage b (b.act (.letGo index)) (.letGo index) l [] := by
  rw [act, letGoAt]
  split
  · exact .same _ l
  · rename_i t ht
    have hmem := List.mem_of_getElem? ht
    obtain ⟨n, hrelease, hlinks, hnet⟩ := release_eq b.site (h.abandoned t hmem)
    rw [hrelease]
    rcases hnet with ⟨-, rfl⟩ | ⟨e, n', -, hn', rfl, hdrop⟩
    · exact .kept (.of_eq l rfl rfl rfl rfl) rfl
    · have hknown : l.index < (n'.dropListener e.listener).links.length ↔
          l.index < b.site.network.links.length := by rw [hlinks]
      have hlink : n'.link l = b.site.network.link l ∨
          (0 < t.task.holds l ∧ n'.link l = (b.site.network.link l).drop) := by
        rcases hdrop with rfl | ⟨c, hholds, rfl⟩
        · exact .inl rfl
        · rw [Conn.drop, Network.link_dropLink]
          split
          · rename_i hl
            exact .inr ⟨hl ▸ hholds, rfl⟩
          · exact .inl rfl
      by_cases hqueue : (n'.queueOf e.listener).any (Incoming.isOn l) = true
      · have hwaiting : 0 < b.site.network.waiting l := by
          rw [← Network.waiting_of_listeners hn' l]
          exact Network.any_queueOf hqueue
        refine .left ⟨hknown, fun c _ hq => ?_, fun id c u _ hs => hs, fun _ _ => Iff.rfl⟩
          (.letGo index t rfl hmem (.inr hwaiting)) (.inr ?_)
        · exact (Network.queues_of_listeners hn').1 (Network.Queues.of_dropListener hq)
        · apply (Network.link_dropListener n' e.listener l).trans
          rw [if_pos hqueue]
          rcases hlink with hlink | ⟨-, hlink⟩ <;> rw [hlink]
          exact Link.drop_drop _
      · have hsame : (n'.dropListener e.listener).link l = n'.link l := by
          rw [Network.link_dropListener, if_neg hqueue]
        have hqueues (c : Conn) (hc : c.link = l) :
            (n'.dropListener e.listener).Queues (.conn c) ↔ b.Queued c :=
          (Network.queues_dropListener (not_mem_queueOf hqueue c hc)).trans
            (Network.queues_of_listeners hn')
        rcases hlink with hlink | ⟨hholds, hlink⟩
        · exact .kept ⟨hknown, hqueues, fun id c u _ => Iff.rfl, fun _ _ => Iff.rfl⟩
            (hsame.trans hlink)
        · exact .left ⟨hknown, fun c hc => (hqueues c hc).1, fun id c u _ hs => hs,
            fun _ _ => Iff.rfl⟩ (.letGo index t rfl hmem (.inl hholds)) (.inr (hsame.trans hlink))

/-- What a call that nobody waits for is to a connection. -/
theorem passage_carryOut (h : b.Tidy) (index : Nat) (l : LinkId) :
    Passage b (b.act (.carryOut index)) (.carryOut index) l
      (Incident.on l (b.observe (.carryOut index))) := by
  rw [act, carryOutAt]
  rcases hk : b.unawaited[index]? with _ | k
  · simpa [observe, carriedOut, hk] using Passage.same _ l
  · have hmem := List.mem_of_getElem? hk
    have hobserve : b.observe (.carryOut index) = [k.incident b.site.host] := by
      simp [observe, carriedOut, hk]
    have hserves (id : ServerId) (c : Conn) (u : Errand) (hc : c.link = k.conn.link) :
        ¬ b.Serves id c u := h.not_serves_of_mem hmem hc
    rw [hobserve, Incident.on_singleton, Call.link_incident]
    by_cases hl : k.conn.link = l
    · rw [if_pos hl]
      subst hl
      refine .carriedOut k rfl hmem rfl ⟨?_, hserves, ?_⟩
      · exact fun c hc => h.not_queued_of_begun (.inl hmem) hc
      · rintro k' hk' (hin | ⟨id, s, hs, hcall⟩)
        · exact h.link_ne_of_mem_eraseIdx hk hin hk'
        · exact hserves id k'.conn (.call k'.bytes) hk' (serves_of_call? hs hcall)
    · rw [if_neg hl]
      refine .kept ⟨Iff.rfl, fun _ _ => Iff.rfl, fun _ _ _ _ => Iff.rfl, fun k' hk' => ?_⟩ rfl
      refine or_congr ⟨List.mem_of_mem_eraseIdx, fun hin => ?_⟩ Iff.rfl
      rw [List.mem_eraseIdx_iff_getElem?]
      obtain ⟨i, hi⟩ := List.getElem?_of_mem hin
      refine ⟨i, ?_, hi⟩
      rintro rfl
      cases hk.symm.trans hi
      exact hl hk'

/-- Whatever the act is, every connection goes through one of the passages. -/
theorem passage_act (h : b.Tidy) (hbuffer : ∀ s ∈ b.servers, 0 < s.buffer) (a : Act) (l : LinkId) :
    Passage b (b.act a) a l (Incident.on l (b.observe a)) := by
  cases a with
  | add name handler buffer backoff => exact passage_add b name handler buffer backoff l
  | start id => exact passage_start b id l
  | shutdown id => exact passage_shutdown b id l
  | register into header callback => exact .kept (.of_eq l rfl rfl rfl rfl) rfl
  | connect channel => exact passage_connect h channel l
  | send link bytes => exact passage_send b link bytes l
  | receive link => exact passage_receive b link l
  | hangUp link => exact passage_hangUp b link l
  | failAccept name => exact passage_failAccept b name l
  | failConn name how => exact passage_failConn h name how l
  | move id =>
    rcases hm : b.moveServer id with _ | b'
    · simpa [act, hm, observe_of_stalled hm] using Passage.same _ l
    · simpa only [act, hm, Option.getD_some] using passage_move h hm hbuffer l
  | write index => exact passage_write b index l
  | letGo index => exact passage_letGo h index l
  | straggle index next =>
    rw [act, h.straggleAt_eq index next]
    exact .same _ l
  | carryOut index => exact passage_carryOut h index l
  | elapse time =>
    exact .kept ⟨Iff.rfl, fun c _ => Iff.rfl, fun id c u _ => serves_elapse,
      fun _ _ => begun_of_perm (.of_eq (pending_elapse b time))⟩ rfl

/-- A tidy board whose servers can read at all. -/
structure Sane (b : Switchboard) : Prop where
  tidy : b.Tidy
  readable : ∀ s ∈ b.servers, Server.minBuffer ≤ s.buffer

theorem sane_create (host : Host) : (create (.inMemory host)).Sane :=
  ⟨tidy_create host, by simp [create]⟩

theorem Sane.act (h : b.Sane) (a : Act) : (b.act a).Sane :=
  ⟨h.tidy.act a, buffer_act h.tidy h.readable (minBuffer_le_profiles a)⟩

theorem Sane.run (h : b.Sane) (acts : List Act) : (b.run acts).Sane := by
  induction acts generalizing b with
  | nil => exact h
  | cons a acts ih => exact ih (h.act a)

theorem Sane.passage (h : b.Sane) (a : Act) (l : LinkId) :
    Passage b (b.act a) a l (Incident.on l (b.observe a)) :=
  passage_act h.tidy (fun s hs => Nat.lt_of_lt_of_le (by decide) (h.readable s hs)) a l

/-! ## Links that are read and written -/

variable {a : Act} {l : LinkId} {i : List Incident} {c : Conn} {u : Errand}

/-- A connection that is known stays known. -/
theorem Passage.known (hp : Passage b b' a l i) (h' : b'.Tidy)
    (hknown : l.index < b.site.network.links.length) :
    l.index < b'.site.network.links.length := by
  cases hp with
  | kept hkeeps => exact hkeeps.known.2 hknown
  | left hretains => exact hretains.known.2 hknown
  | opened hindex => omega
  | broke name how hfail hindex => omega
  | asked bytes hkeeps => exact hkeeps.known.2 hknown
  | flushed bytes hkeeps => exact hkeeps.known.2 hknown
  | received hkeeps => exact hkeeps.known.2 hknown
  | accepted id c hc hq hserves => exact hc ▸ hserves.lt h'
  | heard id s c after bytes n hs hc hserves hne hr hlink hserves' =>
    exact (Conn.read_frame hr).1.trans hc ▸ hserves'.lt h'
  | answered id k hk hbegun hserves hlink hserves' => exact hk ▸ hserves'.lt h'
  | carriedOut k hk hmem hnet => rwa [hnet]
  | told id c u count n hc hserves hne hw hlink hserves' => exact hc ▸ hserves'.lt h'

/-- A connection that was not known before waits alone at a listener. One that is made to break is
closed from the start. -/
theorem Passage.born (hp : Passage b b' a l i) (h : b.Tidy)
    (hborn : b.site.network.links.length ≤ l.index)
    (hknown : l.index < b'.site.network.links.length) :
    ∃ breakage : Option Breakage, b'.Queued ⟨l, breakage⟩
      ∧ (∀ c, c.link = l → b'.Queued c → c = ⟨l, breakage⟩)
      ∧ (breakage = none ∧ b'.site.network.link l = .fresh
        ∨ breakage.isSome ∧ (∃ name how, a = .failConn name how)
          ∧ b'.site.network.link l = Link.fresh.drop) := by
  have hnot : ¬ l.index < b.site.network.links.length := Nat.not_lt.2 hborn
  cases hp with
  | kept hkeeps => exact absurd (hkeeps.known.1 hknown) hnot
  | left hretains => exact absurd (hretains.known.1 hknown) hnot
  | opened hindex hlink hqueued hunique => exact ⟨none, hqueued, hunique, .inl ⟨rfl, hlink⟩⟩
  | broke name how hfail hindex hlink hqueued hunique =>
    exact ⟨some how, hqueued, hunique, .inr ⟨rfl, ⟨name, how, hfail⟩, hlink⟩⟩
  | asked bytes hkeeps => exact absurd (hkeeps.known.1 hknown) hnot
  | flushed bytes hkeeps => exact absurd (hkeeps.known.1 hknown) hnot
  | received hkeeps => exact absurd (hkeeps.known.1 hknown) hnot
  | accepted id c hc hq => exact absurd (hc ▸ hq.lt h) hnot
  | heard id s c after bytes n hs hc hserves => exact absurd (hc ▸ hserves.lt h) hnot
  | answered id k hk hbegun => exact absurd (hk ▸ hbegun.lt h) hnot
  | carriedOut k hk hmem => exact absurd (hk ▸ h.called k hmem) hnot
  | told id c u count n hc hserves => exact absurd (hc ▸ hserves.lt h) hnot

/-- What changed about the link of a host's end that was read. -/
theorem read_link {n n' : Network} {c after : Conn} {max : Nat} {bytes : List UInt8}
    (hr : c.read max n = (.done bytes, after, n')) (hne : bytes ≠ [])
    (hknown : c.link.index < n.links.length) :
    n'.link c.link = n.link c.link
      ∨ (n.link c.link).fromClient.bytes ≠ []
        ∧ n'.link c.link
          = (n.link c.link).withRequest ((n.link c.link).fromClient.bytes.drop max) := by
  rcases Conn.read_message hr hne with ⟨-, hbytes, -, -, rfl⟩ | ⟨message, -, -, rfl, -⟩
  · exact .inr ⟨hbytes, Network.link_setLink_self _ _ _ hknown⟩
  · exact .inl rfl

/-- What changed about the link of a host's end that was written to. -/
theorem write_link {n n' : Network} {c : Conn} {bytes : List UInt8} {count : Nat}
    (hw : c.write bytes n = (.done count, n')) (hknown : c.link.index < n.links.length) :
    ∃ sent, (n.link c.link).fromHost.closed = false
      ∧ n'.link c.link = (n.link c.link).withReply ((n.link c.link).fromHost.bytes ++ sent) := by
  obtain ⟨-, hopen, -, rfl⟩ := Conn.write_done hw
  exact ⟨_, hopen, Network.link_setLink_self _ _ _ hknown⟩

/-- An end that was dropped stays so. -/
theorem Passage.closed (hp : Passage b b' a l i) (hknown : l.index < b.site.network.links.length) :
    ((b.site.network.link l).fromClient.closed = true →
      (b'.site.network.link l).fromClient.closed = true)
    ∧ ((b.site.network.link l).fromHost.closed = true →
      (b'.site.network.link l).fromHost.closed = true) := by
  cases hp with
  | kept hkeeps hlink => rw [hlink]; exact ⟨id, id⟩
  | left hretains hcause hlink =>
    rcases hlink with hlink | hlink <;> rw [hlink]
    · exact ⟨id, id⟩
    · exact ⟨fun _ => rfl, fun _ => rfl⟩
  | opened hindex => omega
  | broke name how hfail hindex => omega
  | asked bytes hkeeps ha hne hopen hlink => rw [hlink]; exact ⟨id, id⟩
  | flushed bytes hkeeps hmem hopen hlink => rw [hlink]; exact ⟨id, id⟩
  | received hkeeps hlink => rw [hlink]; exact ⟨id, id⟩
  | accepted id c hc hq hserves hlink => rw [hlink]; exact ⟨fun h => h, fun h => h⟩
  | heard id s c after bytes n hs hc hserves hne hr hlink =>
    subst hc
    rw [hlink]
    rcases read_link hr hne hknown with hsame | ⟨-, hsame⟩ <;> rw [hsame]
    · exact ⟨fun h => h, fun h => h⟩
    · exact ⟨fun h => h, fun h => h⟩
  | answered id k hk hbegun hserves hlink => rw [hlink]; exact ⟨fun h => h, fun h => h⟩
  | carriedOut k hk hmem hnet => rw [hnet]; exact ⟨fun h => h, fun h => h⟩
  | told id c u count n hc hserves hne hw hlink =>
    subst hc
    obtain ⟨sent, -, hsent⟩ := write_link hw hknown
    rw [hlink, hsent]
    exact ⟨fun h => h, fun h => h⟩

/-! ## Ends that do not break -/

/-- No end of a connection breaks on purpose. -/
def Whole (b : Switchboard) (l : LinkId) : Prop :=
  ∀ c, c.link = l → (b.Queued c ∨ ∃ id u, b.Serves id c u) → c.breakage = none

theorem Whole.of_retains (h : b.Whole l) (hretains : Retains b b' l) : b'.Whole l := by
  rintro c hc (hq | ⟨id, u, hs⟩)
  · exact h c hc (.inl (hretains.queued c hc hq))
  · exact h c hc (.inr ⟨id, u, hretains.serves id c u hc hs⟩)

/-- While a server has the connection, its end is that of the server. -/
theorem Whole.of_serves {c : Conn} {u : Errand} (h : b.Tidy) (hc : c.link = l)
    (hs : b.Serves id c u) (hwhole : c.breakage = none) : b.Whole l := by
  rintro c' hc' (hq | ⟨id', u', hs'⟩)
  · exact absurd hq (h.not_queued hs (hc'.trans hc.symm))
  · obtain ⟨-, rfl, -⟩ := h.serves_unique hs hs' (hc'.trans hc.symm)
    exact hwhole

/-- An end that is there does not come to break. -/
theorem Passage.whole (hp : Passage b b' a l i) (h' : b'.Tidy) (hwhole : b.Whole l)
    (hknown : l.index < b.site.network.links.length) : b'.Whole l := by
  cases hp with
  | kept hkeeps => exact hwhole.of_retains hkeeps.retains
  | left hretains => exact hwhole.of_retains hretains
  | opened hindex => omega
  | broke name how hfail hindex => omega
  | asked bytes hkeeps => exact hwhole.of_retains hkeeps.retains
  | flushed bytes hkeeps => exact hwhole.of_retains hkeeps.retains
  | received hkeeps => exact hwhole.of_retains hkeeps.retains
  | accepted id c hc hq hserves' => exact .of_serves h' hc hserves' (hwhole c hc (.inl hq))
  | heard id s c after bytes n hs hc hserves hne hr hlink hserves' =>
    have hnone := hwhole c hc (.inr ⟨id, _, hserves⟩)
    rcases Conn.read_message hr hne with ⟨-, -, rfl, -⟩ | ⟨_, -, hwriting, -⟩
    · exact .of_serves h' hc hserves' hnone
    · cases hwriting.symm.trans hnone
  | answered id k hk hbegun hserves hlink hserves' =>
    exact .of_serves h' hk hserves' (hwhole k.conn hk (.inr ⟨id, _, hserves⟩))
  | carriedOut k hk hmem hnet hvacant =>
    rintro c hc (hq | ⟨id, u, hserves⟩)
    · exact absurd hq (hvacant.queued c hc)
    · exact absurd hserves (hvacant.serves id c u hc)
  | told id c u count n hc hserves hne hw hlink hserves' =>
    exact .of_serves h' hc hserves' (hwhole c hc (.inr ⟨id, _, hserves⟩))

/-- Nobody is at the other end of a connection that is made to break. -/
theorem Passage.whole_or_broke (hp : Passage b b' a l i) (h : b.Tidy) (h' : b'.Tidy)
    (hborn : b.site.network.links.length ≤ l.index) :
    b'.Whole l
      ∨ (∃ name how, a = .failConn name how) ∧ b'.site.network.link l = Link.fresh.drop := by
  by_cases hknown : l.index < b'.site.network.links.length
  · obtain ⟨breakage, hqueued, hunique, ⟨rfl, -⟩ | ⟨-, hbroke⟩⟩ := hp.born h hborn hknown
    · left
      rintro c hc (hq | ⟨id, u, hserves⟩)
      · rw [hunique c hc hq]
      · exact absurd hserves (h'.not_serves hqueued hc)
    · exact .inr hbroke
  · left
    rintro c hc (hq | ⟨id, u, hserves⟩)
    · exact absurd (hc ▸ hq.lt h') hknown
    · exact absurd (hc ▸ hserves.lt h') hknown

/-! ## Places that stay -/

/-- Both ends of a connection are there. -/
def Open (b : Switchboard) (l : LinkId) : Prop :=
  (b.site.network.link l).fromClient.closed = false ∧ (b.site.network.link l).fromHost.closed = false

theorem Open.of_link (ho : b.Open l) {x : Link} (hx : b'.site.network.link l = x)
    (hto : x.fromClient.closed = (b.site.network.link l).fromClient.closed)
    (hback : x.fromHost.closed = (b.site.network.link l).fromHost.closed) : b'.Open l := by
  rw [Open, hx, hto, hback]
  exact ho

/-- A server goes on with its client until one of the two leaves. -/
theorem Passage.serves (hp : Passage b b' a l i) (h : b.Tidy) (hs : b.Serves id c u)
    (hc : c.link = l) (hwhole : c.breakage = none) (ho : b.Open l) (hhang : a ≠ .hangUp l)
    (hshut : a ≠ .shutdown id) : (∃ u', b'.Serves id c u') ∧ b'.Open l := by
  have hlt : l.index < b.site.network.links.length := hc ▸ hs.lt h
  cases hp with
  | kept hkeeps hlink =>
    exact ⟨⟨u, (hkeeps.serves id c u hc).2 hs⟩, ho.of_link hlink rfl rfl⟩
  | left hretains hcause hlink =>
    exfalso
    cases hcause with
    | hungUp ha => exact hhang ha
    | shutDown id' c' u' ha hc' hs' =>
      obtain ⟨rfl, -, -⟩ := h.serves_unique hs hs' (hc'.trans hc.symm)
      exact hshut ha
    | letGo index t ha ht hwhy =>
      have halone := h.alone hs
      rw [hc] at halone
      have := halone.2 t ht
      omega
    | parted id' c' ha hc' hs' hclosed =>
      rw [ho.1] at hclosed
      cases hclosed
    | waited id' ha hbreak hwaiting =>
      have halone := (h.alone hs).1
      rw [hc] at halone
      omega
    | brokeDown id' c' u' ha hc' hs' hwhy =>
      obtain ⟨-, rfl, -⟩ := h.serves_unique hs hs' (hc'.trans hc.symm)
      rw [hwhole, ho.2] at hwhy
      simp at hwhy
  | opened hindex => omega
  | broke name how hfail hindex => omega
  | asked bytes hkeeps hsend hne hopen hlink =>
    exact ⟨⟨u, (hkeeps.serves id c u hc).2 hs⟩, ho.of_link hlink rfl rfl⟩
  | flushed bytes hkeeps hmem hopen hlink =>
    exact ⟨⟨u, (hkeeps.serves id c u hc).2 hs⟩, ho.of_link hlink rfl rfl⟩
  | received hkeeps hlink =>
    exact ⟨⟨u, (hkeeps.serves id c u hc).2 hs⟩, ho.of_link hlink rfl rfl⟩
  | accepted id' c' hc' hq => exact absurd hq (h.not_queued hs (hc'.trans hc.symm))
  | heard id' s c' after bytes n hs' hc' hserves hne hr hlink hserves' =>
    obtain ⟨rfl, rfl, -⟩ := h.serves_unique hs hserves (hc'.trans hc.symm)
    rcases Conn.read_message hr hne with ⟨-, -, rfl, -, rfl⟩ | ⟨_, -, hwriting, -⟩
    · refine ⟨⟨_, hserves'⟩, ?_⟩
      rw [hc, Network.link_setLink_self _ _ _ hlt] at hlink
      exact ho.of_link hlink rfl rfl
    · rw [hwhole] at hwriting
      cases hwriting
  | answered id' k hk hbegun hserves hlink hserves' =>
    obtain ⟨rfl, rfl, -⟩ := h.serves_unique hs hserves (hk.trans hc.symm)
    exact ⟨⟨_, hserves'⟩, ho.of_link hlink rfl rfl⟩
  | carriedOut k hk hmem => exact absurd hs (h.not_serves_of_mem hmem (hc.trans hk.symm))
  | told id' c' unsent count n hc' hserves hne hw hlink hserves' =>
    obtain ⟨rfl, rfl, -⟩ := h.serves_unique hs hserves (hc'.trans hc.symm)
    obtain ⟨-, -, -, rfl⟩ := Conn.write_done hw
    refine ⟨⟨_, hserves'⟩, ?_⟩
    rw [hc, Network.link_setLink_self _ _ _ hlt] at hlink
    exact ho.of_link hlink rfl rfl

/-- A client that waits goes on waiting until a server takes it, or it hangs up, or the listener is
dropped. -/
theorem Passage.queued (hp : Passage b b' a l i) (h : b.Tidy) (hq : b.Queued c) (hc : c.link = l)
    (ho : b.Open l) (hhang : a ≠ .hangUp l)
    (hletGo : ∀ index t, a = .letGo index → t ∉ b.abandoned)
    (hbreak : ∀ id, a = .move id → ¬ b.Breakdown id) :
    (b'.Queued c ∨ ∃ id c', c'.link = l ∧ b'.Serves id c' (.reply [])) ∧ b'.Open l := by
  have hlt : l.index < b.site.network.links.length := hc ▸ hq.lt h
  cases hp with
  | kept hkeeps hlink => exact ⟨.inl ((hkeeps.queued c hc).2 hq), ho.of_link hlink rfl rfl⟩
  | left hretains hcause hlink =>
    exfalso
    cases hcause with
    | hungUp ha => exact hhang ha
    | shutDown id' c' u' ha hc' hs' => exact h.not_serves hq (hc'.trans hc.symm) hs'
    | letGo index t ha ht hwhy => exact hletGo index t ha ht
    | parted id' c' ha hc' hs' hclosed => exact h.not_serves hq (hc'.trans hc.symm) hs'
    | waited id' ha hbreak' hwaiting => exact hbreak id' ha hbreak'
    | brokeDown id' c' u' ha hc' hs' hwhy => exact h.not_serves hq (hc'.trans hc.symm) hs'
  | opened hindex => omega
  | broke name how hfail hindex => omega
  | asked bytes hkeeps hsend hne hopen hlink =>
    exact ⟨.inl ((hkeeps.queued c hc).2 hq), ho.of_link hlink rfl rfl⟩
  | flushed bytes hkeeps hmem hopen hlink =>
    exact ⟨.inl ((hkeeps.queued c hc).2 hq), ho.of_link hlink rfl rfl⟩
  | received hkeeps hlink => exact ⟨.inl ((hkeeps.queued c hc).2 hq), ho.of_link hlink rfl rfl⟩
  | accepted id' c' hc' hq' hserves hlink =>
    exact ⟨.inr ⟨id', c', hc', hserves⟩, ho.of_link hlink rfl rfl⟩
  | heard id' s c' after bytes n hs' hc' hserves =>
    exact absurd hserves (h.not_serves hq (hc'.trans hc.symm))
  | answered id' k hk hbegun => exact absurd hq (h.not_queued_of_begun hbegun (hc.trans hk.symm))
  | carriedOut k hk hmem => exact absurd hq (h.not_queued_of_begun (.inl hmem) (hc.trans hk.symm))
  | told id' c' unsent count n hc' hserves =>
    exact absurd hserves (h.not_serves hq (hc'.trans hc.symm))

end Switchboard

end KeyBridge
