-- SUMMARY: What one listener goes through in one act, whatever the act is.
import KeyBridge.Proofs.Ownership

/-!
# Stations

Seen from one listener, there are few things that can happen to a switchboard: it is opened,
something is put in its queue, its server takes the first thing in the queue, hears, answers or
takes leave of a client, or the listener is dropped. `episode_act` sorts every act into these, so
that a proof about listeners goes by the cases of `Episode`, as one about connections goes by those
of `Passage`.
-/

namespace KeyBridge

/-! ## Queues of listeners -/

namespace Network

variable {n n' : Network} {e e' : ListenerId} {l : Listener}

theorem queueOf_of_listener? (hl : n.listeners[e.index]? = some l) : n.queueOf e = l.queue := by
  rw [queueOf, hl]
  rfl

theorem queueOf_of_none (hl : n.listeners[e.index]? = none) : n.queueOf e = [] := by
  rw [queueOf, hl]
  rfl

theorem queueOf_of_listeners (h : n'.listeners = n.listeners) (e : ListenerId) :
    n'.queueOf e = n.queueOf e := by
  rw [queueOf, h, queueOf]

/-- A listener in another state has another queue; the others keep theirs. -/
theorem queueOf_set {l' : Listener} {links : List Link} (hl : n.listeners[e.index]? = some l) :
    queueOf ⟨n.listeners.set e.index l', links⟩ e' = if e' = e then l'.queue else n.queueOf e' := by
  split
  · rename_i he
    subst he
    exact queueOf_of_listener? (List.getElem?_set_self (List.getElem?_eq_some_iff.1 hl).1)
  · rename_i he
    have hindex : e.index ≠ e'.index := fun hi => he (congrArg ListenerId.mk hi.symm)
    rw [queueOf, List.getElem?_set_ne hindex, queueOf]

theorem queueOf_enqueue (item : Incoming) (hl : n.listeners[e.index]? = some l) :
    (n.enqueue e item).queueOf e' = if e' = e then n.queueOf e' ++ [item] else n.queueOf e' := by
  rw [enqueue_eq item hl, queueOf_set hl]
  split
  · rename_i he
    rw [he, queueOf_of_listener? hl]
  · rfl

theorem queueOf_openListener (name : String) : (n.openListener name).queueOf e = n.queueOf e := by
  have hlisteners : (n.openListener name).listeners = n.listeners ++ [⟨name, [], true, true⟩] := rfl
  rw [queueOf, queueOf, hlisteners]
  rcases Nat.lt_trichotomy e.index n.listeners.length with hlt | heq | hgt
  · rw [List.getElem?_append_left hlt]
  · rw [heq, List.getElem?_concat_length, List.getElem?_eq_none (Nat.le_refl _)]
    rfl
  · rw [List.getElem?_eq_none (by rw [List.length_append]; exact hgt),
      List.getElem?_eq_none (Nat.le_of_lt hgt)]

theorem queueOf_accept_done {c : Conn} (ha : n.accept e = (.done c, n')) :
    ∃ rest, n.queueOf e = .conn c :: rest
      ∧ ∀ e', n'.queueOf e' = if e' = e then rest else n.queueOf e' := by
  obtain ⟨l, rest, hl, hq, rfl⟩ := accept_done ha
  exact ⟨rest, (queueOf_of_listener? hl).trans hq, fun e' => queueOf_set hl⟩

theorem queueOf_dropListener (n : Network) (e e' : ListenerId) :
    (n.dropListener e).queueOf e' = if e' = e then [] else n.queueOf e' := by
  rcases hl : n.listeners[e.index]? with _ | l
  · rw [dropListener_of_none hl]
    split
    · rename_i he
      rw [he, queueOf_of_none hl]
    · rfl
  · have hset := listeners_dropListener hl
    rw [queueOf_of_listeners (n := ⟨n.listeners.set e.index _, n.links⟩) hset, queueOf_set hl]

end Network

/-! ## Entries -/

/-- Something that happens at a listener. -/
inductive Entry where
  /-- Something was put at the end of its queue. -/
  | delivered (item : Incoming)
  /-- Its server took the first thing in the queue. -/
  | taken (item : Incoming)
  /-- The handler answered a message that was read there. -/
  | answered (incident : Incident)

namespace Entry

@[simp] def delivery? : Entry → Option Incoming
  | .delivered item => some item
  | _ => none

@[simp] def taking? : Entry → Option Incoming
  | .taken item => some item
  | _ => none

@[simp] def answer? : Entry → Option Incident
  | .answered i => some i
  | _ => none

/-- What was put in the queue, in order. -/
def deliveries (log : List Entry) : List Incoming := log.filterMap delivery?

/-- What the server took from the queue, in order. -/
def takings (log : List Entry) : List Incoming := log.filterMap taking?

/-- The runs of the handler, in order. -/
def answers (log : List Entry) : List Incident := log.filterMap answer?

section

variable (log more : List Entry) (entry : Entry)

@[simp] theorem deliveries_nil : deliveries [] = [] := rfl

@[simp] theorem takings_nil : takings [] = [] := rfl

@[simp] theorem answers_nil : answers [] = [] := rfl

@[simp] theorem deliveries_append : deliveries (log ++ more) = deliveries log ++ deliveries more :=
  List.filterMap_append

@[simp] theorem takings_append : takings (log ++ more) = takings log ++ takings more :=
  List.filterMap_append

@[simp] theorem answers_append : answers (log ++ more) = answers log ++ answers more :=
  List.filterMap_append

@[simp] theorem deliveries_singleton : deliveries [entry] = entry.delivery?.toList := by
  cases entry <;> rfl

@[simp] theorem takings_singleton : takings [entry] = entry.taking?.toList := by
  cases entry <;> rfl

@[simp] theorem answers_singleton : answers [entry] = entry.answer?.toList := by
  cases entry <;> rfl

end

end Entry

/-- What a call is to a listener when it is carried out. -/
def Call.entries (c : Call) (host : Host) (e : ListenerId) : List Entry :=
  if c.endpoint.listener = e then [.answered (c.incident host)] else []

/-- What a server does at a listener in its next move. -/
def Server.dealings (s : Server) (site : Site) (e : ListenerId) : List Entry :=
  match s.task with
  | some (.listening x) =>
    if x.listener = e then (site.network.queueOf e).head?.toList.map .taken else []
  | _ => s.call?.toList.flatMap fun c => c.entries site.host e

/-- The client of a task, and what it does for the client. -/
def Task.client? : Task → Option (Conn × Errand)
  | .serving _ c u => some (c, u)
  | _ => none

theorem Task.owns_eq {t : Task} {x : Endpoint} (hx : t.endpoint? = some x) (e : ListenerId) :
    t.owns e = if x.listener = e then 1 else 0 := by
  rw [Task.owns, hx]

namespace Switchboard

/-- What is put at the listener of a name, as seen from one listener. -/
def arrivals (b : Switchboard) (e : ListenerId) (name : String) (item : Incoming) : List Entry :=
  match b.site.network.reach name with
  | .ok e' => if e' = e then [.delivered item] else []
  | .error _ => []

/-- Nothing is heard or taken when something arrives. -/
theorem answers_arrivals (b : Switchboard) (e : ListenerId) (name : String) (item : Incoming) :
    Entry.answers (b.arrivals e name item) = [] ∧ Entry.takings (b.arrivals e name item) = [] := by
  unfold arrivals
  split
  · split
    · exact ⟨rfl, rfl⟩
    · exact ⟨rfl, rfl⟩
  · exact ⟨rfl, rfl⟩

/-- The host's end of the connection that is made next. -/
def newcomer (b : Switchboard) (breakage : Option Breakage) : Incoming :=
  .conn ⟨⟨b.site.network.links.length⟩, breakage⟩

/-- What happens at a listener in an act. -/
def dealings (b : Switchboard) (e : ListenerId) : Act → List Entry
  | .connect channel => b.arrivals e channel (b.newcomer none)
  | .failAccept name => b.arrivals e name .failure
  | .failConn name how => b.arrivals e name (b.newcomer (some how))
  | .move id =>
    match b.server? id with
    | none => []
    | some s => s.dealings b.site e
  | .carryOut index => b.unawaited[index]?.toList.flatMap fun c => c.entries b.site.host e
  | _ => []

/-- What happens at a listener in a run. -/
def record (e : ListenerId) (b : Switchboard) : List Act → List Entry
  | [] => []
  | a :: acts => b.dealings e a ++ record e (b.act a) acts

theorem record_append (e : ListenerId) (b : Switchboard) (acts more : List Act) :
    b.record e (acts ++ more) = b.record e acts ++ (b.run acts).record e more := by
  induction acts generalizing b with
  | nil => rfl
  | cons a acts ih => simp [record, ih]

/-! ## Stations -/

/-- A server has a task, or had it when it was shut down. -/
def Posted (b : Switchboard) (t : Task) : Prop :=
  (∃ id s, b.server? id = some s ∧ s.task = some t) ∨ ∃ n ∈ b.abandoned, n.task = t

/-- A listener exists; so much waits at it, and the task that has it has this client. -/
def Station (b : Switchboard) (e : ListenerId) (q : List Incoming)
    (client : Option (Conn × Errand)) : Prop :=
  b.site.network.queueOf e = q
    ∧ ∃ t x, b.Posted t ∧ t.endpoint? = some x ∧ x.listener = e ∧ t.client? = client

variable {b b' : Switchboard} {a : Act} {e : ListenerId} {id : ServerId} {s s' : Server} {t : Task}
  {x : Endpoint} {q : List Incoming} {client : Option (Conn × Errand)}

theorem Posted.owns_le (hp : b.Posted t) (e : ListenerId) : t.owns e ≤ b.owners e := by
  rcases hp with ⟨id, s, hs, ht⟩ | ⟨n, hn, rfl⟩
  · have hle := le_sum_map (f := Server.owns e) hs
    rw [Server.owns_of_task ht] at hle
    simp only [owners]
    omega
  · obtain ⟨i, hi⟩ := List.getElem?_of_mem hn
    have hle := le_sum_map (f := fun n : Stray => n.task.owns e) hi
    simp only [owners]
    omega

/-- A listener with a station exists. -/
theorem Station.live (h : b.Tidy) (hst : b.Station e q client) : 0 < b.site.network.lives e := by
  obtain ⟨-, t, x, hp, hx, rfl, -⟩ := hst
  have hle := hp.owns_le x.listener
  rw [Task.owns_eq hx, if_pos rfl, h.owned] at hle
  exact hle

/-- A listener that exists has a station. -/
theorem Tidy.station (h : b.Tidy) (hlive : 0 < b.site.network.lives e) :
    ∃ q client, b.Station e q client := by
  have howner : ∃ t, b.Posted t ∧ 0 < t.owns e := by
    rw [← h.owned e, owners] at hlive
    by_cases hservers : 0 < (b.servers.map (Server.owns e)).sum
    · obtain ⟨s, hs, hown⟩ := exists_of_sum_map_pos hservers
      obtain ⟨i, hi⟩ := List.getElem?_of_mem hs
      rcases ht : s.task with _ | t
      · simp [Server.owns, ht] at hown
      · rw [Server.owns_of_task ht] at hown
        exact ⟨t, .inl ⟨⟨i⟩, s, hi, ht⟩, hown⟩
    · have habandoned : 0 < (b.abandoned.map fun n => n.task.owns e).sum := by omega
      obtain ⟨n, hn, hown⟩ := exists_of_sum_map_pos habandoned
      exact ⟨n.task, .inr ⟨n, hn, rfl⟩, hown⟩
  obtain ⟨t, hp, hown⟩ := howner
  rcases hx : t.endpoint? with _ | x
  · simp [Task.owns, hx] at hown
  · rw [Task.owns_eq hx] at hown
    split at hown
    · rename_i he
      exact ⟨_, _, rfl, t, x, hp, hx, he, rfl⟩
    · exact absurd hown (Nat.lt_irrefl 0)

/-- What no two tasks have together belongs to one of them. -/
theorem posted_unique (f : Task → Nat)
    (hle : (b.servers.map fun s => (s.task.map f).getD 0).sum
      + (b.abandoned.map fun n => f n.task).sum ≤ 1) {t' : Task}
    (hp : b.Posted t) (hp' : b.Posted t') (ho : 0 < f t) (ho' : 0 < f t') : t' = t := by
  have hserver {id : ServerId} {s : Server} {t : Task} (hs : b.server? id = some s)
      (ht : s.task = some t) : f t ≤ (b.servers.map fun s => (s.task.map f).getD 0).sum := by
    have hle := le_sum_map (f := fun s : Server => (s.task.map f).getD 0) hs
    simpa [ht] using hle
  rcases hp with ⟨id, s, hs, ht⟩ | ⟨n, hn, rfl⟩ <;>
    rcases hp' with ⟨id', s', hs', ht'⟩ | ⟨n', hn', rfl⟩
  · by_cases hid : id = id'
    · subst hid
      cases hs.symm.trans hs'
      exact Option.some.inj (ht'.symm.trans ht)
    · have hindex : id.index ≠ id'.index := fun hi => hid (congrArg ServerId.mk hi)
      have hboth := add_le_sum_map (f := fun s : Server => (s.task.map f).getD 0) hindex hs hs'
      simp only [ht, ht', Option.map_some, Option.getD_some] at hboth
      omega
  · obtain ⟨i, hi⟩ := List.getElem?_of_mem hn'
    have hfirst := hserver hs ht
    have hsecond := le_sum_map (f := fun n : Stray => f n.task) hi
    omega
  · obtain ⟨i, hi⟩ := List.getElem?_of_mem hn
    have hfirst := le_sum_map (f := fun n : Stray => f n.task) hi
    have hsecond := hserver hs' ht'
    omega
  · obtain ⟨i, hi⟩ := List.getElem?_of_mem hn
    obtain ⟨j, hj⟩ := List.getElem?_of_mem hn'
    by_cases hij : i = j
    · subst hij
      exact congrArg Stray.task (Option.some.inj (hj.symm.trans hi))
    · have hboth := add_le_sum_map (f := fun n : Stray => f n.task) hij hi hj
      omega

/-- A listener belongs to one task. -/
theorem Tidy.owner_task (h : b.Tidy) {t' : Task} (hp : b.Posted t) (hp' : b.Posted t')
    (ho : 0 < t.owns e) (ho' : 0 < t'.owns e) : t' = t := by
  have howned := h.owned e
  have hlives : b.site.network.lives e ≤ 1 := Bool.toNat_le _
  rw [← howned] at hlives
  exact posted_unique (Task.owns e) hlives hp hp' ho ho'

/-- A connection that tasks serve is served by one of them. -/
theorem Tidy.holder_task (h : b.Tidy) {l : LinkId} {t' : Task} (hp : b.Posted t)
    (hp' : b.Posted t') (ho : 0 < t.holds l) (ho' : 0 < t'.holds l) : t' = t := by
  refine posted_unique (Task.holds l) ?_ hp hp' ho ho'
  have hheld : b.site.network.waiting l + (b.servers.map (Server.holds l)).sum
      + (b.abandoned.map fun n => n.task.holds l).sum ≤ 1 := h.held l
  have hservers : (b.servers.map fun s => (s.task.map (Task.holds l)).getD 0).sum
      = (b.servers.map (Server.holds l)).sum := rfl
  rw [hservers]
  omega

theorem Tidy.station_unique (h : b.Tidy) {q' : List Incoming}
    {client' : Option (Conn × Errand)} (hst : b.Station e q client)
    (hst' : b.Station e q' client') : q' = q ∧ client' = client := by
  obtain ⟨rfl, t, x, hp, hx, rfl, rfl⟩ := hst
  obtain ⟨rfl, t', x', hp', hx', he, rfl⟩ := hst'
  have hsame : t' = t := by
    refine h.owner_task (e := x.listener) hp hp' ?_ ?_
    · rw [Task.owns_eq hx, if_pos rfl]
      exact Nat.one_pos
    · rw [Task.owns_eq hx', if_pos he]
      exact Nat.one_pos
  exact ⟨rfl, congrArg Task.client? hsame⟩

/-- A listener whose queue and whose task stay has the station that it had. -/
theorem station_congr (hq : b'.site.network.queueOf e = b.site.network.queueOf e)
    (hposted : ∀ t x, t.endpoint? = some x → x.listener = e → (b'.Posted t ↔ b.Posted t)) :
    b'.Station e q client ↔ b.Station e q client := by
  rw [Station, Station, hq]
  refine and_congr_right fun _ => ?_
  constructor
  · rintro ⟨t, x, hp, hx, he, hclient⟩
    exact ⟨t, x, (hposted t x hx he).1 hp, hx, he, hclient⟩
  · rintro ⟨t, x, hp, hx, he, hclient⟩
    exact ⟨t, x, (hposted t x hx he).2 hp, hx, he, hclient⟩

theorem posted_of_eq (hservers : b'.servers = b.servers) (habandoned : b'.abandoned = b.abandoned)
    (t : Task) : b'.Posted t ↔ b.Posted t := by
  rw [Posted, Posted, habandoned]
  simp only [server?, hservers]

/-- The tasks of other servers stay where they are. -/
theorem posted_of_set (hs : b.server? id = some s)
    (hservers : b'.servers = b.servers.set id.index s')
    (habandoned : b'.abandoned = b.abandoned) (hnot : s.task ≠ some t) (hnot' : s'.task ≠ some t) :
    b'.Posted t ↔ b.Posted t := by
  have hlt : id.index < b.servers.length := (List.getElem?_eq_some_iff.1 hs).1
  have hself : b'.server? id = some s' := by
    rw [server?, hservers]
    exact List.getElem?_set_self hlt
  rw [Posted, Posted, habandoned]
  refine or_congr_left ?_
  constructor
  · rintro ⟨id', s₀, hs₀, ht⟩
    by_cases hid : id' = id
    · subst hid
      cases hself.symm.trans hs₀
      exact absurd ht hnot'
    · rw [server?_set_ne hservers hid] at hs₀
      exact ⟨id', s₀, hs₀, ht⟩
  · rintro ⟨id', s₀, hs₀, ht⟩
    by_cases hid : id' = id
    · subst hid
      cases hs.symm.trans hs₀
      exact absurd ht hnot
    · exact ⟨id', s₀, (server?_set_ne hservers hid).trans hs₀, ht⟩

/-! ## What one listener goes through -/

/-- Everyone whose connection waits or is served at a station sees the end of the stream. -/
def Closes (b : Switchboard) (q : List Incoming) (client : Option (Conn × Errand)) : Prop :=
  (∀ c, Incoming.conn c ∈ q → (b.site.network.link c.link).fromHost.closed = true)
    ∧ ∀ c u, client = some (c, u) → (b.site.network.link c.link).fromHost.closed = true

/-- What one listener goes through in an act, and what happens at it. -/
inductive Episode (b b' : Switchboard) (a : Act) (e : ListenerId) : List Entry → Prop where
  | kept : (∀ q client, b'.Station e q client ↔ b.Station e q client) → Episode b b' a e []
  | opened : e = b.site.network.nextListener → b'.Station e [] none → Episode b b' a e []
  | delivered (item : Incoming) :
      (∀ q client, b.Station e q client → b'.Station e (q ++ [item]) client) →
      0 < b.site.network.lives e →
      (∀ l, item.isOn l → l.index = b.site.network.links.length) →
      Episode b b' a e [.delivered item]
  | took (id : ServerId) (c : Conn) (rest : List Incoming) : a = .move id →
      b.Station e (.conn c :: rest) none → b'.Station e rest (some (c, .reply [])) →
      Episode b b' a e [.taken (.conn c)]
  | heard (id : ServerId) (s : Server) (q : List Incoming) (c after : Conn) (bytes : List UInt8)
      (n : Network) : a = .move id → b.Station e q (some (c, .reply [])) → bytes ≠ [] →
      c.read s.buffer b.site.network = (.done bytes, after, n) →
      b'.Station e q (some (after, .call bytes)) → Episode b b' a e []
  | answered (id : ServerId) (k : Call) (q : List Incoming) (text : String) : a = .move id →
      k.endpoint.listener = e → b.Station e q (some (k.conn, .call k.bytes)) →
      b'.Station e q (some (k.conn, .reply (Wire.encode text))) →
      Episode b b' a e [.answered (k.incident b.site.host)]
  /-- A call was carried out that was begun before the server was shut down. -/
  | carriedOut (k : Call) : k ∈ b.unawaited → k.endpoint.listener = e →
      (∀ q client, b'.Station e q client ↔ b.Station e q client) →
      Episode b b' a e [.answered (k.incident b.site.host)]
  | parted (id : ServerId) (s : Server) (q : List Incoming) (c : Conn) : a = .move id →
      b.Station e q (some (c, .reply [])) →
      c.read s.buffer b.site.network = (.done [], c, b.site.network) → 0 < s.buffer →
      b'.site.network.link c.link = (b.site.network.link c.link).drop → b'.Station e q none →
      Episode b b' a e []
  | told (id : ServerId) (q : List Incoming) (c : Conn) (u u' : List UInt8) : a = .move id →
      b.Station e q (some (c, .reply u)) → c.breakage = none →
      b'.Station e q (some (c, .reply u')) →
      Episode b b' a e []
  | failed (id : ServerId) (rest : List Incoming) : a = .move id →
      b.Station e (.failure :: rest) none → (∀ q client, ¬ b'.Station e q client) →
      b'.Closes rest none → Episode b b' a e [.taken .failure]
  | dropped (q : List Incoming) (client : Option (Conn × Errand)) :
      b.Station e q client → (∀ q client, ¬ b'.Station e q client) → b'.Closes q client →
      Episode b b' a e []

theorem Episode.same (a : Act) (e : ListenerId) : Episode b b a e [] := .kept fun _ _ => Iff.rfl

/-- An act that leaves all tasks and all queues alone. -/
theorem Episode.of_frame (hservers : b'.servers = b.servers)
    (habandoned : b'.abandoned = b.abandoned)
    (hlisteners : b'.site.network.listeners = b.site.network.listeners) : Episode b b' a e [] :=
  .kept fun _ _ => station_congr (Network.queueOf_of_listeners hlisteners e)
    fun t _ _ _ => posted_of_eq hservers habandoned t

/-! ## Moves -/

theorem Station.intro (hp : b.Posted t) (hx : t.endpoint? = some x) :
    b.Station x.listener (b.site.network.queueOf x.listener) t.client? :=
  ⟨rfl, t, x, hp, hx, rfl, rfl⟩

/-- A dead listener has no station. -/
theorem Tidy.not_station (h : b.Tidy) (hdead : b.site.network.lives e = 0) (q : List Incoming)
    (client : Option (Conn × Errand)) : ¬ b.Station e q client := by
  intro hst
  have hlive := hst.live h
  rw [hdead] at hlive
  exact absurd hlive (Nat.lt_irrefl 0)

/-- A server of a board made a step, and nothing else happened; both boards are tidy. -/
structure Made (b b' : Switchboard) (id : ServerId) (s s' : Server) : Prop where
  tidy : b.Tidy
  tidy' : b'.Tidy
  was : b.server? id = some s
  is : b'.server? id = some s'
  servers : b'.servers = b.servers.set id.index s'
  abandoned : b'.abandoned = b.abandoned

namespace Made

variable {t' : Task}

theorem station (hm : Made b b' id s s') (ht : s.task = some t) (hx : t.endpoint? = some x) :
    b.Station x.listener (b.site.network.queueOf x.listener) t.client? :=
  .intro (.inl ⟨id, s, hm.was, ht⟩) hx

theorem station' (hm : Made b b' id s s') (ht : s'.task = some t) (hx : t.endpoint? = some x) :
    b'.Station x.listener (b'.site.network.queueOf x.listener) t.client? :=
  .intro (.inl ⟨id, s', hm.is, ht⟩) hx

/-- A listener that a server does not have keeps its station while the server moves. -/
theorem kept (hm : Made b b' id s s') (hs : s.owns e = 0) (hs' : s'.owns e = 0)
    (hq : b'.site.network.queueOf e = b.site.network.queueOf e) : Episode b b' a e [] := by
  refine .kept fun q client => station_congr hq fun t x hx he => ?_
  have howns : t.owns e = 1 := by rw [Task.owns_eq hx, if_pos he]
  refine posted_of_set hm.was hm.servers hm.abandoned (fun ht => ?_) (fun ht => ?_)
  · rw [Server.owns_of_task ht, howns] at hs
    cases hs
  · rw [Server.owns_of_task ht, howns] at hs'
    cases hs'

end Made

theorem owns_eq_zero {s : Server} (ht : s.task = some t) (hx : t.endpoint? = some x)
    (he : x.listener ≠ e) : s.owns e = 0 := by
  rw [Server.owns_of_task ht, Task.owns_eq hx, if_neg he]

theorem dealings_ne {s : Server} (ht : s.task = some t) (hx : t.endpoint? = some x)
    (he : x.listener ≠ e) : s.dealings b.site e = [] := by
  unfold Server.dealings
  rw [ht]
  cases t with
  | starting => cases hx
  | waiting => cases hx
  | listening y =>
    cases hx
    exact if_neg he
  | serving y c u =>
    cases hx
    cases u with
    | call bytes =>
      dsimp only
      rw [Server.call?_of_task ht, Option.toList_some, List.flatMap_singleton]
      exact if_neg he
    | reply u => simp [Server.call?, ht]

/-- A server that turns to another task at its listener keeps to that one. -/
theorem Made.turned (hm : Made b b' id s s') {t' : Task} (ht : s.task = some t)
    (hx : t.endpoint? = some x) (ht' : s'.task = some t') (hx' : t'.endpoint? = some x)
    (helsewhere : ∀ e, x.listener ≠ e →
      b'.site.network.queueOf e = b.site.network.queueOf e)
    (hhere : b.Station x.listener (b.site.network.queueOf x.listener) t.client? →
      b'.Station x.listener (b'.site.network.queueOf x.listener) t'.client? →
      Episode b b' (.move id) x.listener (s.dealings b.site x.listener)) (e : ListenerId) :
    Episode b b' (.move id) e (s.dealings b.site e) := by
  by_cases he : x.listener = e
  · subst he
    exact hhere (hm.station ht hx) (hm.station' ht' hx')
  · rw [dealings_ne ht hx he]
    exact hm.kept (owns_eq_zero ht hx he) (owns_eq_zero ht' hx' he) (helsewhere e he)

/-- What a server that has a client does for it is nothing to other listeners. -/
theorem Made.attended (hm : Made b b' id s s') {t' : Task} (ht : s.task = some t)
    (hx : t.endpoint? = some x) (ht' : s'.task = some t') (hx' : t'.endpoint? = some x)
    (hlisteners : b'.site.network.listeners = b.site.network.listeners)
    (hhere : ∀ q, b.Station x.listener q t.client? → b'.Station x.listener q t'.client? →
      Episode b b' (.move id) x.listener (s.dealings b.site x.listener)) (e : ListenerId) :
    Episode b b' (.move id) e (s.dealings b.site e) := by
  have hq := Network.queueOf_of_listeners hlisteners
  refine hm.turned ht hx ht' hx' (fun e _ => hq e) (fun hst hst' => ?_) e
  rw [hq] at hst'
  exact hhere _ hst hst'

/-- When a listener is dropped, so are those who wait there and its client. -/
theorem Episode.of_dropListener (h' : b'.Tidy) {client : Option (Conn × Errand)} {n : Network}
    (hst : b.Station e (b.site.network.queueOf e) client)
    (hn : b'.site.network = n.dropListener e)
    (hlisteners : n.listeners = b.site.network.listeners)
    (hclient : ∀ c u, client = some (c, u) → (n.link c.link).fromHost.closed = true) :
    Episode b b' a e [] := by
  have hdead : b'.site.network.lives e = 0 := by
    rw [hn, Network.lives_dropListener, if_pos rfl]
  refine .dropped _ _ hst (h'.not_station hdead) ⟨fun c hc => ?_, fun c u hc => ?_⟩
  · rw [hn, Network.link_dropListener, Network.queueOf_of_listeners hlisteners, if_pos]
    · rfl
    · exact List.any_eq_true.2 ⟨_, hc, by simp [Incoming.isOn]⟩
  · rw [hn, Network.link_dropListener]
    split
    · rfl
    · exact hclient c u hc

/-- The listener of a task exists and is known, so it fails on purpose only. -/
theorem Tidy.accept_failed (h : b.Tidy) {error : NetworkError} {n : Network}
    (hs : b.server? id = some s) (ht : s.task = some (.listening x))
    (ha : b.site.network.accept x.listener = (.failed error, n)) :
    ∃ l rest, b.site.network.listeners[x.listener.index]? = some l ∧ l.queue = .failure :: rest
      ∧ n = ⟨b.site.network.listeners.set x.listener.index { l with queue := rest },
        b.site.network.links⟩ := by
  rcases Network.accept_failed ha with ⟨hnone, -⟩ | ⟨l, hl, hatt, -⟩ | hq
  · have howns := h.owns_le hs x.listener
    rw [Server.owns_of_task ht] at howns
    simp [Task.owns, Task.endpoint?, Network.lives, Network.isLive, hnone] at howns
  · rw [h.sound.attached l (List.mem_of_getElem? hl)] at hatt
    cases hatt
  · exact hq

theorem dealings_of_isBinding {s : Server} (hb : s.isBinding) (site : Site) (e : ListenerId) :
    s.dealings site e = [] := by
  rcases hb with ht | ht <;> simp [Server.dealings, Server.call?, ht]

theorem dealings_listening {s : Server} {site : Site} {item : Incoming} {rest : List Incoming}
    (ht : s.task = some (.listening x))
    (hfirst : site.network.queueOf x.listener = item :: rest) :
    s.dealings site x.listener = [.taken item] := by
  simp [Server.dealings, ht, hfirst]

theorem dealings_reply {s : Server} {c : Conn} {u : List UInt8}
    (ht : s.task = some (.serving x c (.reply u))) (site : Site) (e : ListenerId) :
    s.dealings site e = [] := by
  simp [Server.dealings, Server.call?, ht]

theorem dealings_call {s : Server} {c : Conn} {bytes : List UInt8}
    (ht : s.task = some (.serving x c (.call bytes))) (site : Site) :
    s.dealings site x.listener
      = [.answered (Call.incident ⟨s.handler, x, c, bytes⟩ site.host)] := by
  simp [Server.dealings, Server.call?_of_task ht, ht, Call.entries]

/-- A server opens a listener, at which nobody waits. -/
theorem Made.opened (hm : Made b b' id s s') (hb : s.isBinding)
    (hs' : s'.task = some (.listening x)) (hx : x.listener = b.site.network.nextListener)
    {name : String} (hn : b'.site.network = b.site.network.openListener name) (e : ListenerId) :
    Episode b b' (.move id) e [] := by
  have hq (e : ListenerId) : b'.site.network.queueOf e = b.site.network.queueOf e := by
    rw [hn]
    exact Network.queueOf_openListener name
  by_cases he : x.listener = e
  · subst he
    have hempty : b.site.network.queueOf x.listener = [] := by
      rw [hx]
      exact Network.queueOf_of_none (List.getElem?_eq_none (Nat.le_refl _))
    have hst := hm.station' hs' rfl
    rw [hq, hempty] at hst
    exact .opened hx hst
  · exact hm.kept (Server.owns_of_isBinding hb e) (owns_eq_zero hs' rfl he) (hq e)

/-- A listener that fails is dropped by its server. -/
theorem Made.failed (hm : Made b b' id s s') (ht : s.task = some (.listening x))
    (hs' : s'.task = some (.waiting s.backoff)) {error : NetworkError} {n : Network}
    (ha : b.site.network.accept x.listener = (.failed error, n))
    (hn : b'.site.network = n.dropListener x.listener) (e : ListenerId) :
    Episode b b' (.move id) e (s.dealings b.site e) := by
  obtain ⟨l, rest, hl, hfirst, rfl⟩ := hm.tidy.accept_failed hm.was ht ha
  have hqueue := (Network.queueOf_of_listener? hl).trans hfirst
  by_cases he : x.listener = e
  · subst he
    have hst := hm.station ht rfl
    rw [hqueue] at hst
    rw [dealings_listening ht hqueue]
    refine .failed id rest rfl hst (hm.tidy'.not_station ?_) ⟨fun c hc => ?_, nofun⟩
    · rw [hn, Network.lives_dropListener, if_pos rfl]
    · have hwaits : rest.any (Incoming.isOn c.link) = true :=
        List.any_eq_true.2 ⟨_, hc, by simp [Incoming.isOn]⟩
      rw [hn, Network.link_dropListener, Network.queueOf_set hl, if_pos rfl, if_pos hwaits]
      rfl
  · rw [dealings_ne ht rfl he]
    refine hm.kept (owns_eq_zero ht rfl he) (Server.owns_of_task hs' e) ?_
    rw [hn, Network.queueOf_dropListener, if_neg (Ne.symm he), Network.queueOf_set hl,
      if_neg (Ne.symm he)]

/-- A server that breaks down with its client drops the listener and the client. -/
theorem Made.lost (hm : Made b b' id s s') {c : Conn} {u : List UInt8}
    (ht : s.task = some (.serving x c (.reply u))) (hs' : s'.task = some (.waiting s.backoff))
    (hn : b'.site.network = (c.drop b.site.network).dropListener x.listener) (e : ListenerId) :
    Episode b b' a e (s.dealings b.site e) := by
  have hlisteners : (c.drop b.site.network).listeners = b.site.network.listeners :=
    Network.listeners_dropLink ..
  have hclosed : ((c.drop b.site.network).link c.link).fromHost.closed = true :=
    congrArg (·.fromHost.closed) ((Network.link_dropLink ..).trans (if_pos rfl))
  rw [dealings_reply ht]
  by_cases he : x.listener = e
  · subst he
    refine .of_dropListener hm.tidy' (hm.station ht rfl) hn hlisteners fun c' u' hc => ?_
    cases hc
    exact hclosed
  · refine hm.kept (owns_eq_zero ht rfl he) (Server.owns_of_task hs' e) ?_
    rw [hn, Network.queueOf_dropListener, if_neg (Ne.symm he),
      Network.queueOf_of_listeners hlisteners]

/-- What a step is to a listener. -/
theorem Made.episode (hm : Made b b' id s s') (hstep : s.Step b.site s' b'.site)
    (hbuffer : 0 < s.buffer) (e : ListenerId) :
    Episode b b' (.move id) e (s.dealings b.site e) := by
  generalize hsite : b'.site = site' at hstep
  have hnetwork : b'.site.network = site'.network := by rw [hsite]
  cases hstep with
  | bound hb =>
    rw [dealings_of_isBinding hb]
    exact hm.opened hb (Server.task_turnTo ..) rfl hnetwork e
  | refused hb =>
    rw [dealings_of_isBinding hb]
    exact hm.kept (Server.owns_of_isBinding hb e) rfl (by rw [hnetwork]; rfl)
  | accepted x c n ht ha =>
    obtain ⟨rest, hfirst, hq⟩ := Network.queueOf_accept_done ha
    have hq' (e : ListenerId) : b'.site.network.queueOf e = n.queueOf e := by
      rw [hnetwork]
      rfl
    refine hm.turned ht rfl (Server.task_turnTo ..) rfl (fun e he => ?_) (fun hst hst' => ?_) e
    · rw [hq', hq, if_neg (Ne.symm he)]
    · rw [hfirst] at hst
      rw [hq', hq, if_pos rfl] at hst'
      rw [dealings_listening ht hfirst]
      exact .took id c rest rfl hst hst'
  | notAccepted x error n ht ha => exact hm.failed ht rfl ha hnetwork e
  | heard x c after bytes n ht hne hr =>
    have hlisteners : b'.site.network.listeners = b.site.network.listeners := by
      rw [hnetwork]
      exact (Conn.read_frame hr).2.1
    refine hm.attended ht rfl (Server.task_turnTo ..) rfl hlisteners (fun q hst hst' => ?_) e
    rw [dealings_reply ht]
    exact .heard id s q c after bytes n rfl hst hne hr hst'
  | answered x c bytes ht =>
    have hlisteners : b'.site.network.listeners = b.site.network.listeners := by
      rw [hnetwork]
      rfl
    refine hm.attended ht rfl (Server.task_turnTo ..) rfl hlisteners (fun q hst hst' => ?_) e
    rw [dealings_call ht]
    exact .answered id ⟨s.handler, x, c, bytes⟩ q _ rfl rfl hst hst'
  | parted x c after n ht hr =>
    obtain ⟨rfl, rfl, -, -⟩ := Conn.read_nothing hbuffer hr
    have hlisteners : b'.site.network.listeners = b.site.network.listeners := by
      rw [hnetwork]
      exact Network.listeners_dropLink ..
    refine hm.attended ht rfl (Server.task_turnTo ..) rfl hlisteners (fun q hst hst' => ?_) e
    rw [dealings_reply ht]
    refine .parted id s q after rfl hst hr hbuffer ?_ hst'
    rw [hnetwork]
    exact (Network.link_dropLink ..).trans (if_pos rfl)
  | unheard x c after error n ht hr =>
    obtain ⟨rfl, rfl, -⟩ := Conn.read_failed hr
    exact hm.lost ht rfl hnetwork e
  | told x c u count n ht hne hw =>
    have hlisteners : b'.site.network.listeners = b.site.network.listeners := by
      rw [hnetwork]
      exact (Conn.write_frame hw).1
    refine hm.attended ht rfl (Server.task_turnTo ..) rfl hlisteners (fun q hst hst' => ?_) e
    rw [dealings_reply ht]
    exact .told id q c u (u.drop count) rfl hst (Conn.write_done hw).1 hst'
  | cutOff x c u error n ht hne hw =>
    obtain ⟨rfl, -⟩ := Conn.write_failed hw
    exact hm.lost ht rfl hnetwork e

/-! ## Acts -/

/-- The move of a server, if it can make one. -/
theorem made_of_moveServer (h : b.Sane) (hm : b.moveServer id = some b') :
    ∃ s s', Made b b' id s s' ∧ s.Step b.site s' b'.site ∧ 0 < s.buffer := by
  obtain ⟨s, s', site', hs, hstep, rfl, hservers, habandoned, -⟩ := h.tidy.step_of_moveServer hm
  have htidy' := h.tidy.act (.move id)
  rw [act, hm] at htidy'
  have hreadable := h.readable s (mem_servers_of_server? hs)
  refine ⟨s, s', ⟨h.tidy, htidy', hs, ?_, hservers, habandoned⟩, hstep,
    Nat.lt_of_lt_of_le (by decide) hreadable⟩
  rw [server?, hservers]
  exact List.getElem?_set_self (List.getElem?_eq_some_iff.1 hs).1

theorem episode_move (h : b.Sane) (id : ServerId) (e : ListenerId) :
    Episode b (b.act (.move id)) (.move id) e (b.dealings e (.move id)) := by
  rcases hs : b.server? id with _ | s
  · have hstill : b.act (.move id) = b := by simp [act, moveServer, hs]
    simpa only [dealings, hs, hstill] using Episode.same _ e
  · simp only [dealings, hs]
    rcases hm : b.moveServer id with _ | b'
    · have hmove : s.move b.site = none := by simpa [moveServer, hs] using hm
      have hstill : b.act (.move id) = b := by simp [act, hm]
      have hnothing : s.dealings b.site e = [] := by
        rcases Server.stalled_of_move hmove with ht | ⟨time, ht⟩ | ⟨x, n, ht, ha⟩
          | ⟨x, c, after, n, ht, -⟩ | ⟨x, c, u, n, ht, -⟩
        · simp [Server.dealings, Server.call?, ht]
        · simp [Server.dealings, Server.call?, ht]
        · obtain ⟨l, hl, hq⟩ := Network.accept_pending ha
          rw [Server.dealings, ht]
          dsimp only
          split
          · rename_i he
            rw [← he, Network.queueOf_of_listener? hl, hq]
            rfl
          · rfl
        · exact dealings_reply ht _ e
        · exact dealings_reply ht _ e
      rw [hstill, hnothing]
      exact .same _ e
    · obtain ⟨s₀, s', hmade, hstep, hbuffer⟩ := made_of_moveServer h hm
      cases hs.symm.trans hmade.was
      have hact : b.act (.move id) = b' := by simp [act, hm]
      rw [hact]
      exact hmade.episode hstep hbuffer e

/-- What is put at the listener of a name waits there, and nowhere else. -/
theorem episode_arrival {name : String} {item : Incoming} {n : Network} {found : ListenerId}
    (hr : b.site.network.reach name = .ok found)
    (hlisteners : n.listeners = b.site.network.listeners)
    (hnew : ∀ l, item.isOn l → l.index = b.site.network.links.length) (a : Act) (e : ListenerId) :
    Episode b (b.withNetwork (n.enqueue found item)) a e (b.arrivals e name item) := by
  obtain ⟨lis, hl, hlive, -⟩ := Network.reach_ok hr
  have hl' : n.listeners[found.index]? = some lis := hlisteners ▸ hl
  have hq : (n.enqueue found item).queueOf e = _ := Network.queueOf_enqueue item hl'
  rw [Network.queueOf_of_listeners hlisteners] at hq
  simp only [arrivals, hr]
  split
  · rename_i he
    subst he
    refine .delivered item (fun q client => ?_) ?_ hnew
    · rintro ⟨rfl, t, x, hp, hx, he, rfl⟩
      exact ⟨hq.trans (if_pos rfl), t, x, hp, hx, he, rfl⟩
    · simp [Network.lives, Network.isLive, hl, hlive]
  · rename_i he
    refine .kept fun q client => station_congr (hq.trans (if_neg (Ne.symm he))) fun t _ _ _ => ?_
    exact posted_of_eq rfl rfl t

theorem isOn_newcomer (b : Switchboard) (breakage : Option Breakage) (l : LinkId)
    (hl : (b.newcomer breakage).isOn l) : l.index = b.site.network.links.length := by
  have heq : (⟨b.site.network.links.length⟩ : LinkId) = l := by
    simpa [newcomer, Incoming.isOn] using hl
  rw [← heq]

theorem arrivals_error {name : String} {item : Incoming} {error : NetworkError}
    (hr : b.site.network.reach name = .error error) (e : ListenerId) :
    b.arrivals e name item = [] := by
  simp only [arrivals, hr]

theorem connect_reach (h : b.Tidy) (channel : String) :
    b.connect channel = match b.site.network.reach channel with
      | .ok e => .ok ((b.site.network.newLink .fresh).1,
          b.withNetwork ((b.site.network.newLink .fresh).2.enqueue e (b.newcomer none)))
      | .error error => .error (.network error) := by
  rw [connect, Site.connect_inMemory _ _ h.directory, Network.connect]
  rcases b.site.network.reach channel with error | e
  · rfl
  · rfl

theorem episode_connect (h : b.Tidy) (channel : String) (e : ListenerId) :
    Episode b (b.act (.connect channel)) (.connect channel) e
      (b.dealings e (.connect channel)) := by
  rcases hr : b.site.network.reach channel with error | found
  · simp only [act, connect_reach h, hr, dealings, arrivals_error hr]
    exact .same _ e
  · simp only [act, connect_reach h, hr, dealings]
    exact episode_arrival (n := (b.site.network.newLink .fresh).2) hr rfl (b.isOn_newcomer none) _ e

theorem episode_failAccept (b : Switchboard) (name : String) (e : ListenerId) :
    Episode b (b.act (.failAccept name)) (.failAccept name) e
      (b.dealings e (.failAccept name)) := by
  rcases hr : b.site.network.reach name with error | found
  · simp only [act, failAccept_error hr, dealings, arrivals_error hr]
    exact .same _ e
  · simp only [act, failAccept_ok hr, dealings]
    exact episode_arrival hr rfl (fun l hl => by cases hl) _ e

theorem episode_failConn (b : Switchboard) (name : String) (how : Breakage) (e : ListenerId) :
    Episode b (b.act (.failConn name how)) (.failConn name how) e
      (b.dealings e (.failConn name how)) := by
  rcases hr : b.site.network.reach name with error | found
  · simp only [act, failConn_error how hr, dealings, arrivals_error hr]
    exact .same _ e
  · simp only [act, failConn_ok how hr, dealings]
    exact episode_arrival (n := (b.site.network.newLink Link.fresh.drop).2) hr rfl
      (b.isOn_newcomer (some how)) _ e

theorem episode_start (b : Switchboard) (id : ServerId) (e : ListenerId) :
    Episode b (b.act (.start id)) (.start id) e [] := by
  rw [act]
  rcases hs : b.server? id with _ | s
  · simpa only [start, hs] using Episode.same _ e
  · rcases ht : s.task with _ | t
    · rw [start_idle hs ht]
      refine .kept fun q client => station_congr rfl fun t x hx _ => ?_
      refine posted_of_set hs rfl rfl (fun heq => ?_) (fun heq => ?_)
      · cases ht.symm.trans heq
      · cases heq
        cases hx
    · rw [start_running hs (by simp [Server.isRunning, ht])]
      exact .same _ e

/-- A task that was stopped has all that it had. -/
theorem posted_shutdown (hs : b.server? id = some s) :
    (b.act (.shutdown id)).Posted t ↔ b.Posted t := by
  have hservers : (b.act (.shutdown id)).servers
      = b.servers.set id.index { s with state := .idle, task := none } := by
    rw [act, shutdown_eq hs]
    rfl
  have habandoned : (b.act (.shutdown id)).abandoned
      = b.abandoned ++ s.task.toList.map fun t => ⟨id, s.started, t⟩ := by
    rw [act, shutdown_eq hs]
  have hlt : id.index < b.servers.length := (List.getElem?_eq_some_iff.1 hs).1
  have hself : (b.act (.shutdown id)).server? id
      = some { s with state := .idle, task := none } := by
    rw [server?, hservers]
    exact List.getElem?_set_self hlt
  rw [Posted, Posted, habandoned]
  constructor
  · rintro (⟨id', s', hs', ht⟩ | ⟨n, hn, rfl⟩)
    · by_cases hid : id' = id
      · subst hid
        cases hself.symm.trans hs'
        cases ht
      · exact .inl ⟨id', s', (server?_set_ne hservers hid).symm.trans hs', ht⟩
    · rcases List.mem_append.1 hn with hn | hn
      · exact .inr ⟨n, hn, rfl⟩
      · obtain ⟨t, ht, rfl⟩ := List.mem_map.1 hn
        exact .inl ⟨id, s, hs, Option.mem_toList.1 ht⟩
  · rintro (⟨id', s', hs', ht⟩ | ⟨n, hn, rfl⟩)
    · by_cases hid : id' = id
      · subst hid
        cases hs.symm.trans hs'
        refine .inr ⟨⟨id', s.started, t⟩, List.mem_append_right _ ?_, rfl⟩
        exact List.mem_map_of_mem (Option.mem_toList.2 ht)
      · exact .inl ⟨id', s', (server?_set_ne hservers hid).trans hs', ht⟩
    · exact .inr ⟨n, List.mem_append_left _ hn, rfl⟩

theorem episode_shutdown (b : Switchboard) (id : ServerId) (e : ListenerId) :
    Episode b (b.act (.shutdown id)) (.shutdown id) e [] := by
  rcases hs : b.server? id with _ | s
  · have hstill : b.act (.shutdown id) = b := by simp [act, shutdown, hs]
    rw [hstill]
    exact .same _ e
  · refine .kept fun q client => station_congr ?_ fun t x _ _ => posted_shutdown hs
    rw [act, shutdown_eq hs]
    rfl

theorem posted_elapse (time : Nat) (hx : t.endpoint? = some x) :
    (b.elapse time).Posted t ↔ b.Posted t := by
  refine or_congr_left ?_
  constructor
  · rintro ⟨id, s, hs, ht⟩
    obtain ⟨s₀, hs₀, rfl⟩ : ∃ s₀, b.server? id = some s₀ ∧ s₀.elapse time = s := by
      simpa [server?, elapse] using hs
    exact ⟨id, s₀, hs₀, elapse_of_not_waiting time ht hx⟩
  · rintro ⟨id, s, hs, ht⟩
    have hs' : b.servers[id.index]? = some s := hs
    refine ⟨id, s.elapse time, by simp [server?, elapse, hs'], ?_⟩
    unfold Server.elapse
    split
    · rename_i rest hwaiting
      cases hwaiting.symm.trans ht
      cases hx
    · exact ht

/-- A task that lets go drops its listener after its client, and nobody else's connection. -/
theorem release_spec (site : Site) (hx : t.endpoint? = some x) (hpath : x.path = none) :
    ∃ n : Network, t.release site = site.withNetwork (n.dropListener x.listener)
      ∧ n.listeners = site.network.listeners
      ∧ (∀ c u, t.client? = some (c, u) → (n.link c.link).fromHost.closed = true)
      ∧ ∀ l, n.link l = site.network.link l ∨ ∃ c u, t.client? = some (c, u) ∧ c.link = l := by
  cases t with
  | starting => cases hx
  | waiting => cases hx
  | listening y =>
    cases hx
    exact ⟨site.network, Site.release_inMemory site x hpath, rfl, nofun, fun l => .inl rfl⟩
  | serving y c u =>
    cases hx
    refine ⟨c.drop site.network,
      Site.release_inMemory (site.withNetwork (c.drop site.network)) x hpath, rfl, ?_, fun l => ?_⟩
    · intro c' u' hc
      cases hc
      exact congrArg (·.fromHost.closed) ((Network.link_dropLink ..).trans (if_pos rfl))
    · by_cases hl : l = c.link
      · exact .inr ⟨c, u, rfl, hl.symm⟩
      · exact .inl ((Network.link_dropLink ..).trans (if_neg hl))

theorem release_of_none (site : Site) (hx : t.endpoint? = none) : t.release site = site := by
  cases t with
  | starting => rfl
  | waiting => rfl
  | listening => cases hx
  | serving => cases hx

/-- A task that lets go closes all of its station; the others stay. -/
theorem episode_letGo (h : b.Tidy) (index : Nat) (e : ListenerId) :
    Episode b (b.act (.letGo index)) (.letGo index) e [] := by
  have htidy' := h.act (.letGo index)
  rw [act, letGoAt] at htidy' ⊢
  split
  · exact .same _ e
  · rename_i t ht
    simp only [ht] at htidy'
    have hmem := List.mem_of_getElem? ht
    have hother (t' : Task) (hne : t.task.owns e = 0) (howns : t'.owns e = 1) :
        (∃ n ∈ b.abandoned.eraseIdx index, n.task = t') ↔ ∃ n ∈ b.abandoned, n.task = t' := by
      constructor
      · rintro ⟨n, hn, rfl⟩
        exact ⟨n, List.mem_of_mem_eraseIdx hn, rfl⟩
      · rintro ⟨n, hn, rfl⟩
        obtain ⟨j, hj⟩ := List.getElem?_of_mem hn
        refine ⟨n, List.mem_eraseIdx_iff_getElem?.2 ⟨j, fun hij => ?_, hj⟩, rfl⟩
        subst hij
        cases ht.symm.trans hj
        omega
    rcases hx : t.task.endpoint? with _ | x
    · rw [release_of_none b.site hx]
      have hzero : t.task.owns e = 0 := by rw [Task.owns, hx]
      refine .kept fun q client => station_congr rfl fun t' x hx' he => or_congr_right ?_
      exact hother t' hzero (by rw [Task.owns_eq hx', if_pos he])
    · obtain ⟨n, hrelease, hn, hclient, -⟩ := release_spec b.site hx (h.abandoned t hmem x hx)
      rw [hrelease] at htidy' ⊢
      by_cases he : x.listener = e
      · subst he
        exact .of_dropListener htidy' (.intro (.inr ⟨t, hmem, rfl⟩) hx) rfl hn hclient
      · have hzero : t.task.owns e = 0 := by rw [Task.owns_eq hx, if_neg he]
        refine .kept fun q client => station_congr ?_ fun t' x' hx' he' => or_congr_right ?_
        · refine (Network.queueOf_dropListener ..).trans ?_
          rw [if_neg (Ne.symm he), Network.queueOf_of_listeners hn]
        · exact hother t' hzero (by rw [Task.owns_eq hx', if_pos he'])

/-- A call that nobody waits for changes nothing where it was begun. -/
theorem episode_carryOut (b : Switchboard) (index : Nat) (e : ListenerId) :
    Episode b (b.act (.carryOut index)) (.carryOut index) e (b.dealings e (.carryOut index)) := by
  rw [act, carryOutAt, dealings]
  rcases hk : b.unawaited[index]? with _ | k
  · exact .same _ e
  · simp only [Option.toList_some, List.flatMap_singleton, Call.entries]
    split
    · refine .carriedOut k (List.mem_of_getElem? hk) ‹_› fun q client => ?_
      exact station_congr rfl fun t _ _ _ => posted_of_eq rfl rfl t
    · exact .of_frame rfl rfl rfl

theorem episode_add (b : Switchboard) (name : String) (handler : Handler) (buffer backoff : Nat)
    (e : ListenerId) : Episode b (b.act (.add name handler buffer backoff))
      (.add name handler buffer backoff) e [] := by
  refine .kept fun q client => station_congr rfl fun t x hx _ => or_congr_left ?_
  constructor
  · rintro ⟨id, s, hs, ht⟩
    have hs' : (b.servers ++ [Server.create name handler buffer backoff])[id.index]? = some s := hs
    rw [List.getElem?_append] at hs'
    split at hs'
    · exact ⟨id, s, hs', ht⟩
    · rw [List.mem_singleton.1 (List.mem_of_getElem? hs')] at ht
      cases ht
  · rintro ⟨id, s, hs, ht⟩
    have hs' : b.servers[id.index]? = some s := hs
    exact ⟨id, s, (List.getElem?_append_left (List.getElem?_eq_some_iff.1 hs').1).trans hs', ht⟩

theorem episode_send (b : Switchboard) (link : LinkId) (bytes : List UInt8) (e : ListenerId) :
    Episode b (b.act (.send link bytes)) (.send link bytes) e [] := by
  have hchange := change_send b link bytes
  generalize b.act (.send link bytes) = b' at hchange
  cases hchange with
  | none => exact .same _ e
  | send link bytes =>
    refine .of_frame (servers_putOff ..) (abandoned_putOff ..) ?_
    rw [site_putOff]
    rfl

theorem episode_write (b : Switchboard) (index : Nat) (e : ListenerId) :
    Episode b (b.act (.write index)) (.write index) e [] := by
  have hchange := change_write b index
  generalize b.act (.write index) = b' at hchange
  cases hchange with
  | none => exact .same _ e
  | write => exact .of_frame rfl rfl rfl
  | giveUp => exact .of_frame rfl rfl rfl

/-- Whatever the act is, every listener goes through one of the episodes. -/
theorem episode_act (h : b.Sane) (a : Act) (e : ListenerId) :
    Episode b (b.act a) a e (b.dealings e a) := by
  cases a with
  | add name handler buffer backoff => exact episode_add b name handler buffer backoff e
  | start id => exact episode_start b id e
  | shutdown id => exact episode_shutdown b id e
  | register into header callback => exact .of_frame rfl rfl rfl
  | connect channel => exact episode_connect h.tidy channel e
  | send link bytes => exact episode_send b link bytes e
  | receive link => exact .of_frame rfl rfl rfl
  | hangUp link => exact .of_frame rfl rfl rfl
  | failAccept name => exact episode_failAccept b name e
  | failConn name how => exact episode_failConn b name how e
  | move id => exact episode_move h id e
  | write index => exact episode_write b index e
  | letGo index => exact episode_letGo h.tidy index e
  | straggle index next =>
    rw [act, h.tidy.straggleAt_eq index next]
    exact .same _ e
  | carryOut index => exact episode_carryOut b index e
  | elapse time =>
    exact .kept fun q client => station_congr rfl fun t x hx _ => posted_elapse time hx

/-! ## Connections at a station -/

/-- A connection waits or is served at a listener. -/
def Has (b : Switchboard) (e : ListenerId) (l : LinkId) : Prop :=
  ∃ q client, b.Station e q client
    ∧ ((∃ c, Incoming.conn c ∈ q ∧ c.link = l) ∨ ∃ c u, client = some (c, u) ∧ c.link = l)

variable {l : LinkId} {i : List Incident} {entries : List Entry} {c : Conn}

theorem Station.has_of_mem (hst : b.Station e q client) (hc : Incoming.conn c ∈ q) :
    b.Has e c.link :=
  ⟨q, client, hst, .inl ⟨c, hc, rfl⟩⟩

theorem Station.has_client {u : Errand} (hst : b.Station e q (some (c, u))) : b.Has e c.link :=
  ⟨q, _, hst, .inr ⟨c, u, rfl, rfl⟩⟩

theorem listener_of_mem_queueOf (hc : Incoming.conn c ∈ b.site.network.queueOf e) :
    ∃ lis, b.site.network.listeners[e.index]? = some lis ∧ Incoming.conn c ∈ lis.queue := by
  rcases hl : b.site.network.listeners[e.index]? with _ | lis
  · rw [Network.queueOf_of_none hl] at hc
    cases hc
  · exact ⟨lis, rfl, Network.queueOf_of_listener? hl ▸ hc⟩

theorem queued_of_mem_queueOf (hc : Incoming.conn c ∈ b.site.network.queueOf e) : b.Queued c := by
  obtain ⟨lis, hl, hmem⟩ := listener_of_mem_queueOf hc
  exact ⟨lis, List.mem_of_getElem? hl, hmem⟩

theorem Task.holds_of_client? {u : Errand} (hc : t.client? = some (c, u)) :
    t.holds c.link = 1 := by
  cases t with
  | serving x c' u' =>
    cases hc
    exact if_pos rfl
  | _ => cases hc

theorem Posted.holds_le (hp : b.Posted t) (l : LinkId) :
    t.holds l ≤ (b.servers.map (Server.holds l)).sum
      + (b.abandoned.map fun n => n.task.holds l).sum := by
  rcases hp with ⟨id, s, hs, ht⟩ | ⟨n, hn, rfl⟩
  · have hle := le_sum_map (f := Server.holds l) hs
    rw [Server.holds_of_task ht] at hle
    omega
  · obtain ⟨i, hi⟩ := List.getElem?_of_mem hn
    have hle := le_sum_map (f := fun n : Stray => n.task.holds l) hi
    omega

/-- What waits waits at one listener. -/
theorem Tidy.queue_unique (h : b.Tidy) {e' : ListenerId} {c' : Conn}
    (hc : Incoming.conn c ∈ b.site.network.queueOf e)
    (hc' : Incoming.conn c' ∈ b.site.network.queueOf e') (hl : c'.link = c.link) : e' = e := by
  obtain ⟨lis, hlis, hmem⟩ := listener_of_mem_queueOf hc
  obtain ⟨lis', hlis', hmem'⟩ := listener_of_mem_queueOf hc'
  apply Decidable.byContradiction
  intro hne
  have hindex : e'.index ≠ e.index := fun hi => hne (congrArg ListenerId.mk hi)
  have hboth := add_le_sum_map (f := Listener.holds c.link) hindex hlis' hlis
  have hholds : 0 < Listener.holds c.link lis := by
    rw [Listener.holds, List.countP_pos_iff]
    exact ⟨_, hmem, by simp [Incoming.isOn]⟩
  have hholds' : 0 < Listener.holds c.link lis' := by
    rw [Listener.holds, List.countP_pos_iff]
    exact ⟨_, hmem', by simp [Incoming.isOn, hl]⟩
  have hheld := h.held c.link
  simp only [holders, Network.waiting] at hheld
  omega

/-- A connection is at one listener. -/
theorem Tidy.has_unique (h : b.Tidy) {e' : ListenerId} (hh : b.Has e l) (hh' : b.Has e' l) :
    e' = e := by
  have hheld := h.held l
  simp only [holders] at hheld
  -- Where it waits it is counted by the queue, where it is served by the task.
  have hqueued {e : ListenerId} {c : Conn} (hc : Incoming.conn c ∈ b.site.network.queueOf e)
      (hl : c.link = l) : 0 < b.site.network.waiting l := by
    exact hl ▸ (queued_of_mem_queueOf hc).waiting_pos
  have hserved {t : Task} {c : Conn} {u : Errand} (hp : b.Posted t)
      (hc : t.client? = some (c, u)) (hl : c.link = l) : 0 < t.holds l := by
    rw [← hl, Task.holds_of_client? hc]
    exact Nat.one_pos
  obtain ⟨_, _, ⟨rfl, t, x, hp, hx, he, rfl⟩, hat⟩ := hh
  obtain ⟨_, _, ⟨rfl, t', x', hp', hx', he', rfl⟩, hat'⟩ := hh'
  rcases hat with ⟨c, hc, hl⟩ | ⟨c, u, hc, hl⟩ <;>
    rcases hat' with ⟨c', hc', hl'⟩ | ⟨c', u', hc', hl'⟩
  · exact h.queue_unique hc hc' (hl'.trans hl.symm)
  · have hwaits := hqueued hc hl
    have hholds := hserved hp' hc' hl'
    have hle := hp'.holds_le l
    omega
  · have hwaits := hqueued hc' hl'
    have hholds := hserved hp hc hl
    have hle := hp.holds_le l
    omega
  · have hsame := h.holder_task hp hp' (hserved hp hc hl) (hserved hp' hc' hl')
    subst hsame
    cases hx.symm.trans hx'
    exact he'.symm.trans he

/-- A connection that was there before is where it was. -/
theorem Episode.has (ht : Episode b b' a e entries) (h : b.Tidy) (h' : b'.Tidy) (hh : b'.Has e l)
    (hknown : l.index < b.site.network.links.length) : b.Has e l := by
  obtain ⟨q', client', hst', hat⟩ := hh
  have hnowhere (hno : ∀ q client, ¬ b'.Station e q client) : b.Has e l :=
    absurd hst' (hno q' client')
  cases ht with
  | kept hkept => exact ⟨q', client', (hkept q' client').1 hst', hat⟩
  | opened he hst =>
    obtain ⟨rfl, rfl⟩ := h'.station_unique hst hst'
    rcases hat with ⟨c, hc, -⟩ | ⟨c, u, hc, -⟩ <;> cases hc
  | delivered item hst hlive hnew =>
    obtain ⟨q, client, hbefore⟩ := h.station hlive
    obtain ⟨rfl, rfl⟩ := h'.station_unique (hst q client hbefore) hst'
    refine ⟨q, client', hbefore, ?_⟩
    rcases hat with ⟨c, hc, hl⟩ | hserved
    · rcases List.mem_append.1 hc with hc | hc
      · exact .inl ⟨c, hc, hl⟩
      · have hitem : item.isOn l := by
          rw [← List.mem_singleton.1 hc]
          simp [Incoming.isOn, hl]
        have hindex := hnew l hitem
        omega
    · exact .inr hserved
  | took id c rest ha hst hst₁ =>
    obtain ⟨rfl, rfl⟩ := h'.station_unique hst₁ hst'
    refine ⟨_, _, hst, .inl ?_⟩
    rcases hat with ⟨c', hc, hl⟩ | ⟨c', u, hc, hl⟩
    · exact ⟨c', List.mem_cons_of_mem _ hc, hl⟩
    · cases hc
      exact ⟨c, List.mem_cons_self, hl⟩
  | heard id s q c after bytes n ha hst hne hr hst₁ =>
    obtain ⟨rfl, rfl⟩ := h'.station_unique hst₁ hst'
    refine ⟨_, _, hst, ?_⟩
    rcases hat with hwaits | ⟨c', u, hc, hl⟩
    · exact .inl hwaits
    · cases hc
      exact .inr ⟨c, _, rfl, (Conn.read_frame hr).1.symm.trans hl⟩
  | answered id k q text ha hk hst hst₁ =>
    obtain ⟨rfl, rfl⟩ := h'.station_unique hst₁ hst'
    refine ⟨_, _, hst, ?_⟩
    rcases hat with hwaits | ⟨c', u, hc, hl⟩
    · exact .inl hwaits
    · cases hc
      exact .inr ⟨k.conn, _, rfl, hl⟩
  | carriedOut k hk he hkept => exact ⟨q', client', (hkept q' client').1 hst', hat⟩
  | parted id s q c ha hst hr hbuffer hlink hst₁ =>
    obtain ⟨rfl, rfl⟩ := h'.station_unique hst₁ hst'
    refine ⟨_, _, hst, ?_⟩
    rcases hat with hwaits | ⟨c', u, hc, hl⟩
    · exact .inl hwaits
    · cases hc
  | told id q c u u' ha hst hwhole hst₁ =>
    obtain ⟨rfl, rfl⟩ := h'.station_unique hst₁ hst'
    refine ⟨_, _, hst, ?_⟩
    rcases hat with hwaits | ⟨c', u, hc, hl⟩
    · exact .inl hwaits
    · cases hc
      exact .inr ⟨c, _, rfl, hl⟩
  | failed id rest ha hst hno => exact hnowhere hno
  | dropped q client hst hno => exact hnowhere hno

/-! ## Listeners that do not exist -/

/-- A run of a handler for a call that was begun at a listener and for which nobody waits. -/
def Belated (b : Switchboard) (e : ListenerId) (i : Incident) : Prop :=
  ∃ k ∈ b.unawaited, k.endpoint.listener = e ∧ ∃ host, i = k.incident host

/-- At a listener that does not exist only those calls are carried out that were begun before. -/
theorem Episode.entries_of_dead (ht : Episode b b' a e entries) (h : b.Tidy)
    (hdead : b.site.network.lives e = 0) :
    ∃ late : List Incident, entries = late.map .answered ∧ ∀ i ∈ late, b.Belated e i := by
  have hno := h.not_station hdead
  cases ht with
  | kept => exact ⟨[], rfl, nofun⟩
  | opened => exact ⟨[], rfl, nofun⟩
  | delivered item hst hlive => exact absurd hdead (Nat.ne_of_gt hlive)
  | took id c rest ha hst => exact absurd hst (hno _ _)
  | heard id s q c after bytes n ha hst => exact absurd hst (hno _ _)
  | answered id k q text ha hk hst => exact absurd hst (hno _ _)
  | carriedOut k hk he =>
    refine ⟨[k.incident b.site.host], rfl, fun i hi => ?_⟩
    exact ⟨k, hk, he, b.site.host, List.mem_singleton.1 hi⟩
  | parted => exact ⟨[], rfl, nofun⟩
  | told => exact ⟨[], rfl, nofun⟩
  | failed id rest ha hst => exact absurd hst (hno _ _)
  | dropped => exact ⟨[], rfl, nofun⟩

/-- At a listener that does not exist no call is begun. -/
theorem Belated.of_act {i : Incident} (hi : (b.act a).Belated e i) (h : b.Tidy)
    (hdead : b.site.network.lives e = 0) : b.Belated e i := by
  obtain ⟨k, hk, he, hhost⟩ := hi
  rcases (change_act h a).unawaited hk with hk | ⟨id, s, -, hs, hk⟩
  · exact ⟨k, hk, he, hhost⟩
  · obtain ⟨-, ht⟩ := Server.call?_eq_some hk
    have hst := Station.intro (.inl ⟨id, s, hs, ht⟩ : b.Posted _) rfl
    exact absurd (he ▸ hst) (h.not_station hdead _ _)

theorem length_listeners (n : Network) : n.bound.length = n.listeners.length :=
  List.length_map ..

/-- A listener that was dropped stays so. -/
theorem dead_act (h : b.Tidy) (hborn : e.index < b.site.network.listeners.length)
    (hdead : b.site.network.lives e = 0) (a : Act) :
    e.index < (b.act a).site.network.listeners.length
      ∧ (b.act a).site.network.lives e = 0 := by
  constructor
  · have hgrown := ((change_act h a).bound_grows h).length_le
    rw [length_listeners, length_listeners] at hgrown
    omega
  · rcases (change_act h a).turnover h with ⟨name, -, hopened⟩ | haged
    · rw [hopened, Network.lives_openListener, hdead, if_neg]
      rintro rfl
      exact absurd hborn (Nat.lt_irrefl _)
    · have hle := haged.lives e
      omega

/-- A listener that was opened, and that no server has any more. -/
structure Retired (b : Switchboard) (e : ListenerId) : Prop where
  born : e.index < b.site.network.listeners.length
  unowned : ∀ s ∈ b.servers, s.owns e = 0

/-- A server comes to no listener but a new one. -/
theorem Tidy.step_owns_eq_zero {site' : Site} (h : b.Tidy) (hs : b.server? id = some s)
    (hstep : s.Step b.site s' site') (hborn : e.index < b.site.network.listeners.length)
    (hnone : s.owns e = 0) : s'.owns e = 0 := by
  have howns := hstep.owns_eq h.sound (h.owns_le hs) e
  have hlives : site'.network.lives e ≤ b.site.network.lives e := by
    rcases hstep.turnover h.sound with ⟨name, -, hopened⟩ | haged
    · rw [hopened, Network.lives_openListener, if_neg]
      · exact Nat.le_refl _
      · rintro rfl
        exact absurd hborn (Nat.lt_irrefl _)
    · exact haged.lives e
  omega

theorem Retired.act (hr : b.Retired e) (h : b.Tidy) (a : Act) : (b.act a).Retired e where
  born := by
    have hgrown := ((change_act h a).bound_grows h).length_le
    rw [length_listeners, length_listeners] at hgrown
    exact Nat.lt_of_lt_of_le hr.born hgrown
  unowned s hs := by
    have hset {i : Nat} {s' : Server} (hnone : s'.owns e = 0) (hs : s ∈ b.servers.set i s') :
        s.owns e = 0 := by
      rcases List.mem_or_eq_of_mem_set hs with hs | rfl
      · exact hr.unowned s hs
      · exact hnone
    have hchange := change_act h a
    generalize b.act a = b' at hs hchange
    cases hchange with
    | add name handler buffer backoff =>
      rcases List.mem_append.1 hs with hs | hs
      · exact hr.unowned s hs
      · rw [List.mem_singleton.1 hs]
        rfl
    | start id s₀ hs₀ => exact hset (by rfl) hs
    | shutdown id s₀ hs₀ => exact hset (by rfl) hs
    | move id s₀ s' b' hs₀ hstep hservers =>
      rw [hservers] at hs
      refine hset (h.step_owns_eq_zero hs₀ hstep hr.born ?_) hs
      exact hr.unowned s₀ (mem_servers_of_server? hs₀)
    | elapse time =>
      obtain ⟨s₀, hs₀, rfl⟩ := List.mem_map.1 hs
      rw [owns_elapse]
      exact hr.unowned s₀ hs₀
    | send link bytes =>
      rw [servers_putOff] at hs
      exact hr.unowned s hs
    | _ => exact hr.unowned s hs

/-- When a server is shut down its listener retires. -/
theorem Tidy.retired_shutdown (h : b.Tidy) (hs : b.server? id = some s)
    (ht : s.task = some t) (hx : t.endpoint? = some x) :
    (b.act (.shutdown id)).Retired x.listener := by
  have hone : s.owns x.listener = 1 := by rw [Server.owns_of_task ht, Task.owns_eq hx, if_pos rfl]
  have hlive := h.owns_le hs x.listener
  rw [Switchboard.act, shutdown_eq hs]
  refine ⟨?_, fun s' hs' => ?_⟩
  · apply Decidable.byContradiction
    intro hunborn
    have hnone : b.site.network.listeners[x.listener.index]? = none :=
      List.getElem?_eq_none (Nat.le_of_not_lt hunborn)
    simp [Network.lives, Network.isLive, hnone, hone] at hlive
  · have howned := h.owned x.listener
    have hset := sum_map_set (f := Server.owns x.listener) s.stopped hs
    have hstopped : s.stopped.owns x.listener = 0 := rfl
    have hle := List.le_sum_of_mem (List.mem_map_of_mem (f := Server.owns x.listener) hs')
    have hlives : b.site.network.lives x.listener ≤ 1 := Bool.toNat_le _
    simp only [owners, Switchboard.put] at howned hle
    omega

/-- Nothing is taken at a listener that no server has. -/
theorem Retired.takings_eq_nil (hr : b.Retired e) (a : Act) :
    Entry.takings (b.dealings e a) = [] := by
  have hanswers (calls : List Call) :
      Entry.takings (calls.flatMap fun c => c.entries b.site.host e) = [] := by
    refine List.filterMap_eq_nil_iff.2 fun entry hentry => ?_
    obtain ⟨c, -, hc⟩ := List.mem_flatMap.1 hentry
    rw [Call.entries] at hc
    split at hc
    · rw [List.mem_singleton.1 hc]
      rfl
    · cases hc
  cases a with
  | connect channel => exact (answers_arrivals ..).2
  | failAccept name => exact (answers_arrivals ..).2
  | failConn name how => exact (answers_arrivals ..).2
  | carryOut index => exact hanswers _
  | move id =>
    rcases hs : b.server? id with _ | s
    · simp [dealings, hs]
    · simp only [dealings, hs, Server.dealings]
      split
      · rename_i x ht
        have hnone := hr.unowned s (mem_servers_of_server? hs)
        rw [Server.owns_of_task ht, Task.owns] at hnone
        rw [if_neg fun he => by simp [he, Task.endpoint?] at hnone]
        rfl
      · exact hanswers _
  | _ => rfl

/-- Nothing happens any more at a listener that was dropped, but that calls are carried out which
were begun before. -/
theorem record_of_dead (h : b.Sane) (hborn : e.index < b.site.network.listeners.length)
    (hdead : b.site.network.lives e = 0) (acts : List Act) :
    (∃ late : List Incident, b.record e acts = late.map .answered ∧ ∀ i ∈ late, b.Belated e i)
      ∧ (b.run acts).site.network.lives e = 0 := by
  induction acts generalizing b with
  | nil => exact ⟨⟨[], rfl, nofun⟩, hdead⟩
  | cons a acts ih =>
    obtain ⟨hborn', hdead'⟩ := dead_act h.tidy hborn hdead a
    obtain ⟨⟨more, hrest, hmore⟩, hend⟩ := ih (h.act a) hborn' hdead'
    obtain ⟨late, hentries, hlate⟩ := (episode_act h a e).entries_of_dead h.tidy hdead
    refine ⟨⟨late ++ more, ?_, fun i hi => ?_⟩, hend⟩
    · rw [record, hrest, hentries, List.map_append]
    · rcases List.mem_append.1 hi with hi | hi
      · exact hlate i hi
      · exact (hmore i hi).of_act h.tidy hdead

end Switchboard

end KeyBridge
