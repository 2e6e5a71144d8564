-- SUMMARY: How servers come to their endpoints and how they lose them, in undisturbed runs.
import KeyBridge.Proofs.Callbacks
import KeyBridge.Proofs.Calm

/-!
# Endpoints

In an undisturbed run whose servers have names of their own there are two things that can happen to
an endpoint: a server binds it, or the server loses it by writing to a client that hung up. Any
other act leaves all servers where they are; `resettling_act` sorts the acts.
-/

namespace KeyBridge

/-! ## Names of listeners -/

namespace Network

/-- The name of every listener there ever was. -/
def bound (n : Network) : List String := n.listeners.map Listener.name

variable {n n' : Network} {e : ListenerId} {l : Listener}

theorem Sound.bindCount_eq (h : n.Sound) (name : String) : n.bindCount name = n.bound.count name := by
  rw [bindCount, bound, List.count, List.countP_map]
  apply List.countP_congr
  intro l hl
  simp [h.attached l hl]

theorem bound_of_listeners (h : n'.listeners = n.listeners) : n'.bound = n.bound := by
  rw [bound, h, bound]

@[simp] theorem bound_openListener (n : Network) (name : String) :
    (n.openListener name).bound = n.bound ++ [name] := by
  simp [bound, openListener]

theorem bound_set {l' : Listener} (hn : n'.listeners = n.listeners.set e.index l')
    (hl : n.listeners[e.index]? = some l) (hname : l'.name = l.name) : n'.bound = n.bound := by
  have hsame : (n.listeners.map Listener.name)[e.index]? = some l'.name := by
    rw [List.getElem?_map, hl, hname]
    rfl
  rw [bound, hn, List.map_set, set_of_getElem? hsame]
  rfl

theorem bound_enqueue (item : Incoming) (hl : n.listeners[e.index]? = some l) :
    (n.enqueue e item).bound = n.bound :=
  bound_set (congrArg listeners (enqueue_eq item hl)) hl rfl

theorem bound_accept_done {c : Conn} (ha : n.accept e = (.done c, n')) : n'.bound = n.bound := by
  obtain ⟨l, rest, hl, -, rfl⟩ := accept_done ha
  exact bound_set rfl hl rfl

theorem bound_dropListener (n : Network) (e : ListenerId) : (n.dropListener e).bound = n.bound := by
  rcases hl : n.listeners[e.index]? with _ | l
  · rw [dropListener_of_none hl]
  · exact bound_set (listeners_dropListener hl) hl rfl

end Network

/-! ## Where servers are -/

/-- The endpoint of a server, if it has one. -/
def Server.endpoint? (s : Server) : Option Endpoint := s.task.bind Task.endpoint?

/-- The name of a server and its endpoint. -/
def Server.address (s : Server) : String × Option Endpoint := (s.name, s.endpoint?)

theorem Server.endpoint?_of_task {s : Server} {t : Task} (h : s.task = some t) :
    s.endpoint? = t.endpoint? := by
  simp [endpoint?, h]

theorem Server.endpoint?_of_isBinding {s : Server} (h : s.isBinding) : s.endpoint? = none := by
  rcases h with h | h <;> rw [endpoint?_of_task h] <;> rfl

/-- The next move of a server is to write to a client that hung up. -/
def Server.writesInVain (s : Server) (site : Site) : Bool :=
  match s.task with
  | some (.serving _ c (.reply (_ :: _))) => (site.network.link c.link).fromHost.closed
  | _ => false

namespace Switchboard

variable {b b' : Switchboard} {a : Act} {id : ServerId} {s s' : Server}

/-- The name and the endpoint of every server. -/
def addresses (b : Switchboard) : List (String × Option Endpoint) := b.servers.map Server.address

/-- The servers that write to a client that hung up, in an act. -/
def vain (b : Switchboard) : Act → List String
  | .move id =>
    match b.server? id with
    | some s => if s.writesInVain b.site then [s.name] else []
    | none => []
  | _ => []

/-- The servers that write to clients that hung up, in the course of a run. -/
def vainWrites (b : Switchboard) : List Act → List String
  | [] => []
  | a :: acts => b.vain a ++ vainWrites (b.act a) acts

theorem vainWrites_append (b : Switchboard) (acts more : List Act) :
    b.vainWrites (acts ++ more) = b.vainWrites acts ++ (b.run acts).vainWrites more := by
  induction acts generalizing b with
  | nil => rfl
  | cons a acts ih => simp [vainWrites, ih]

/-- What an act does to the addresses of servers, and who writes in vain in it. -/
inductive Resettling (b b' : Switchboard) (a : Act) : List String → Prop where
  | stayed : b'.addresses = b.addresses ++ a.profiles.map (fun p => (p.1, none)) →
      b'.site.network.bound = b.site.network.bound →
      rebuilds b'.site.host.events = rebuilds b.site.host.events → Resettling b b' a []
  | settled (i : Nat) (name : String) : a.profiles = [] → b.addresses[i]? = some (name, none) →
      b'.addresses = b.addresses.set i (name, some ⟨b.site.network.nextListener, none⟩) →
      b'.site.network.bound = b.site.network.bound ++ [name] →
      rebuilds b'.site.host.events = rebuilds b.site.host.events → Resettling b b' a []
  | lost (i : Nat) (name : String) (e : Endpoint) : a.profiles = [] →
      b.addresses[i]? = some (name, some e) → b'.addresses = b.addresses.set i (name, none) →
      b'.site.network.bound = b.site.network.bound →
      rebuilds b'.site.host.events = rebuilds b.site.host.events ++ [name] →
      Resettling b b' a [name]

/-- The listener of every endpoint bears the name of the server. -/
def Named (b : Switchboard) : Prop :=
  ∀ name e, (name, some e) ∈ b.addresses → b.site.network.bound[e.listener.index]? = some name

theorem mem_addresses (hs : b.server? id = some s) : s.address ∈ b.addresses :=
  List.mem_map_of_mem (mem_servers_of_server? hs)

theorem addresses_at (hs : b.server? id = some s) : b.addresses[id.index]? = some s.address := by
  have hs' : b.servers[id.index]? = some s := hs
  simp [addresses, hs']

/-- Nobody else has the name of a server that is about to bind. -/
theorem not_isBound (h : b.Tidy) (hu : b.Undisturbed) (hnamed : b.Named)
    (hdistinct : (b.addresses.map Prod.fst).Nodup) (hs : b.server? id = some s)
    (hb : s.isBinding) : b.site.network.isBound s.name = false := by
  apply Bool.eq_false_iff.2
  intro hbound
  obtain ⟨l, hl, hat⟩ := List.any_eq_true.1 hbound
  simp only [Network.isLiveAt, Bool.and_eq_true, decide_eq_true_eq] at hat
  obtain ⟨i, hi⟩ := List.getElem?_of_mem hl
  obtain ⟨id', s', t, x, hs', ht, hx, hlistener⟩ :=
    h.owner (e := ⟨i⟩) hu.abandoned hi hat.2
  have hend : s'.endpoint? = some x := (Server.endpoint?_of_task ht).trans hx
  have hname : s'.name = s.name := by
    have hat' := hnamed s'.name x (by
      have hmem := mem_addresses hs'
      rwa [Server.address, hend] at hmem)
    rw [hlistener, Network.bound, List.getElem?_map, hi] at hat'
    exact (Option.some.inj hat').symm.trans hat.1.2
  have hsame : id'.index = id.index := by
    have hat₁ : (b.addresses.map Prod.fst)[id'.index]? = some s'.name := by
      rw [List.getElem?_map, addresses_at hs']
      rfl
    have hat₂ : (b.addresses.map Prod.fst)[id.index]? = some s.name := by
      rw [List.getElem?_map, addresses_at hs]
      rfl
    refine (List.getElem?_inj (List.getElem?_eq_some_iff.1 hat₁).1 hdistinct).1 ?_
    rw [hat₁, hat₂, hname]
  have heq : s' = s := by
    have hs₁ : b.servers[id'.index]? = some s' := hs'
    rw [hsame] at hs₁
    exact Option.some.inj (hs₁.symm.trans hs)
  rw [heq, Server.endpoint?_of_isBinding hb] at hend
  cases hend

/-! ## Moves -/

theorem Server.writesInVain_eq {site : Site} {e : Endpoint} {c : Conn} {u : List UInt8}
    (ht : s.task = some (.serving e c (.reply u))) (hne : u ≠ []) :
    s.writesInVain site = (site.network.link c.link).fromHost.closed := by
  obtain ⟨byte, more, rfl⟩ := List.exists_cons_of_ne_nil hne
  simp [Server.writesInVain, ht]

theorem vain_move (hs : b.server? id = some s) :
    b.vain (.move id) = if s.writesInVain b.site then [s.name] else [] := by
  simp only [vain, hs]

theorem addresses_set (hs : b.server? id = some s) (haddress : s'.address = s.address) :
    (b.servers.set id.index s').map Server.address = b.addresses := by
  rw [List.map_set, haddress]
  exact set_of_getElem? (addresses_at hs)

/-- A server that stays where it is. -/
theorem Resettling.of_address (hs : b.server? id = some s)
    (hservers : b'.servers = b.servers.set id.index s') (haddress : s'.address = s.address)
    (hvain : s.writesInVain b.site = false)
    (hbound : b'.site.network.bound = b.site.network.bound)
    (hevents : rebuilds b'.site.host.events = rebuilds b.site.host.events) :
    Resettling b b' (.move id) (b.vain (.move id)) := by
  rw [vain_move hs, hvain]
  refine .stayed ?_ hbound hevents
  rw [addresses, hservers, addresses_set hs haddress]
  exact (List.append_nil _).symm

theorem address_turnTo {t t' : Task} (ht : s.task = some t) (hsame : t'.endpoint? = t.endpoint?)
    (st : ServerState) : (s.turnTo st t').address = s.address := by
  simp [Server.address, Server.endpoint?, ht, hsame]

theorem resettling_move (h : b.Tidy) (hu : b.Undisturbed) (hnamed : b.Named)
    (hdistinct : (b.addresses.map Prod.fst).Nodup) (hs : b.server? id = some s)
    (hstep : s.Step b.site s' b'.site) (hservers : b'.servers = b.servers.set id.index s') :
    Resettling b b' (.move id) (b.vain (.move id)) := by
  have hset : b'.addresses = b.addresses.set id.index s'.address := by
    rw [addresses, hservers, List.map_set, addresses]
  generalize hsite : b'.site = site' at hstep
  cases hstep with
  | bound hb =>
    have hvain : s.writesInVain b.site = false := by
      rcases hb with hb | hb <;> simp [Server.writesInVain, hb]
    rw [vain_move hs, hvain]
    refine .settled id.index s.name rfl ?_ hset ?_ ?_
    · rw [addresses_at hs, Server.address, Server.endpoint?_of_isBinding hb]
    · rw [hsite]
      exact Network.bound_openListener ..
    · simp [hsite, Server.rebuilds_announcement]
  | refused hb hbound =>
    rw [not_isBound h hu hnamed hdistinct hs hb] at hbound
    cases hbound
  | accepted e c n ht ha =>
    refine .of_address hs hservers ?_ (by simp [Server.writesInVain, ht]) ?_ ?_
    · exact address_turnTo ht rfl .connected
    · rw [hsite]
      exact Network.bound_accept_done ha
    · simp [hsite, Server.rebuilds_announcement]
  | notAccepted e error n ht ha => exact absurd (h.queues_failure hs ht ha) hu.working
  | heard e c after bytes n ht hne hr =>
    refine .of_address hs hservers ?_ (by simp [Server.writesInVain, ht]) ?_ ?_
    · exact address_turnTo ht rfl s.state
    · rw [hsite]
      exact Network.bound_of_listeners (Conn.read_frame hr).2.1
    · rw [hsite]
      rfl
  | answered e c bytes ht =>
    refine .of_address hs hservers ?_ (by simp [Server.writesInVain, ht]) ?_ ?_
    · exact address_turnTo ht rfl s.state
    · rw [hsite]
      rfl
    · rw [hsite]
      exact s.handler.rebuilds_hostAfter _ _
  | parted e c after n ht hr =>
    have hd : (after.drop n).listeners = b.site.network.listeners := (Conn.read_frame hr).2.1
    refine .of_address hs hservers ?_ (by simp [Server.writesInVain, ht]) ?_ ?_
    · exact address_turnTo ht rfl .listening
    · rw [hsite]
      exact Network.bound_of_listeners hd
    · rw [hsite, Site.events_log, rebuilds_append, s.rebuilds_cons_announcement]
      exact List.append_nil _
  | unheard e c after error n ht hr =>
    have hbroken := (Conn.read_failed hr).2.2
    rw [hu.served id c _ ⟨s, e, hs, ht⟩] at hbroken
    cases hbroken
  | told e c u count n ht hne hw =>
    refine .of_address hs hservers ?_ ?_ ?_ ?_
    · exact address_turnTo ht rfl s.state
    · rw [Server.writesInVain_eq ht hne]
      exact (Conn.write_done hw).2.1
    · rw [hsite]
      exact Network.bound_of_listeners (Conn.write_frame hw).1
    · rw [hsite]
      rfl
  | cutOff e c u error n ht hne hw =>
    obtain ⟨rfl, hbroken | hclosed⟩ := Conn.write_failed hw
    · rw [hu.served id c _ ⟨s, e, hs, ht⟩] at hbroken
      cases hbroken
    · rw [vain_move hs, Server.writesInVain_eq ht hne, hclosed]
      refine .lost id.index s.name e rfl ?_ hset ?_ ?_
      · rw [addresses_at hs, Server.address, Server.endpoint?_of_task ht]
        rfl
      · rw [hsite]
        exact Network.bound_dropListener ..
      · rw [hsite, Site.events_log, rebuilds_append, s.rebuilds_cons_announcement]
        rfl

theorem writesInVain_of_stalled (hm : s.move b.site = none) : s.writesInVain b.site = false := by
  rcases Server.stalled_of_move hm with ht | ⟨time, ht⟩ | ⟨e, n, ht, -⟩ | ⟨e, c, after, n, ht, -⟩
    | ⟨e, c, u, n, ht, hne, hw⟩
  · simp [Server.writesInVain, ht]
  · simp [Server.writesInVain, ht]
  · simp [Server.writesInVain, ht]
  · simp [Server.writesInVain, ht]
  · rw [Server.writesInVain_eq ht hne]
    exact (Conn.write_pending hw).2.1

/-! ## Acts -/

/-- Operators and clients leave servers where they are. -/
theorem Change.stays (h : Change b a b') (hu : b.Undisturbed) (ha : a.disturbs = false)
    (hmove : ∀ id, a ≠ .move id) (hadd : a.profiles = []) :
    b'.addresses = b.addresses ∧ b'.site.network.bound = b.site.network.bound
      ∧ rebuilds b'.site.host.events = rebuilds b.site.host.events := by
  cases h with
  | none => exact ⟨rfl, rfl, rfl⟩
  | add => cases hadd
  | start id s hs ht =>
    refine ⟨addresses_set hs ?_, rfl, ?_⟩
    · simp [Server.launched, Server.address, Server.endpoint?, ht, Task.endpoint?]
    · simp [Switchboard.yield, Switchboard.put, rebuilds, Event.rebuilt?]
  | shutdown => cases ha
  | register into header callback =>
    exact ⟨rfl, rfl, (Host.Leads.register b.site.host into header callback).rebuilds_eq⟩
  | connect channel e l hl => exact ⟨rfl, Network.bound_enqueue _ hl, rfl⟩
  | send link bytes =>
    rw [addresses, servers_putOff, site_putOff]
    exact ⟨rfl, rfl, rfl⟩
  | receive => exact ⟨rfl, rfl, rfl⟩
  | hangUp => exact ⟨rfl, rfl, rfl⟩
  | failAccept => cases ha
  | failConn => cases ha
  | move id => exact absurd rfl (hmove id)
  | write => exact ⟨rfl, rfl, rfl⟩
  | giveUp => exact ⟨rfl, rfl, rfl⟩
  | letGo index t ht => simp [hu.abandoned] at ht
  | carryOut index c hc => simp [hu.unawaited] at hc
  | elapse time =>
    refine ⟨?_, rfl, rfl⟩
    rw [addresses, addresses, Switchboard.elapse, List.map_map]
    apply List.map_congr_left
    intro s _
    simp only [Function.comp_apply, Server.elapse]
    split
    · rename_i rest ht
      simp [Server.address, Server.endpoint?, ht, Task.endpoint?]
    · rfl

theorem resettling_act (h : b.Tidy) (hu : b.Undisturbed) (hnamed : b.Named)
    (hdistinct : (b.addresses.map Prod.fst).Nodup) (ha : a.disturbs = false) :
    Resettling b (b.act a) a (b.vain a) := by
  have hstays (hmove : ∀ id, a ≠ .move id) (hadd : a.profiles = []) (hvain : b.vain a = []) :
      Resettling b (b.act a) a (b.vain a) := by
    obtain ⟨haddresses, hbound, hevents⟩ := (change_act h a).stays hu ha hmove hadd
    rw [hvain]
    exact .stayed (by rw [haddresses, hadd]; exact (List.append_nil _).symm) hbound hevents
  cases a with
  | add name handler buffer backoff =>
    refine .stayed ?_ rfl rfl
    simp only [act, add, addresses, List.map_append, Act.profiles]
    rfl
  | move id =>
    rcases hs : b.server? id with _ | s
    · have hm : b.moveServer id = none := by simp [moveServer, hs]
      simp only [act, hm, vain, hs]
      exact .stayed (List.append_nil _).symm rfl rfl
    · rcases hm : b.moveServer id with _ | b'
      · have hmove : s.move b.site = none := by simpa [moveServer, hs] using hm
        rw [vain_move hs, writesInVain_of_stalled hmove]
        simp only [act, hm]
        exact .stayed (List.append_nil _).symm rfl rfl
      · obtain ⟨s₀, s', site', hs₀, hstep, rfl, hservers, -, -⟩ := h.step_of_moveServer hm
        cases hs.symm.trans hs₀
        simpa only [act, hm, Option.getD_some]
          using resettling_move h hu hnamed hdistinct hs hstep hservers
  | _ => exact hstays (fun id heq => by cases heq) rfl rfl

end Switchboard

end KeyBridge
