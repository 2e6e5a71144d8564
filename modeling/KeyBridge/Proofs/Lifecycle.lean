-- SUMMARY: The states that servers publish, and what is left of a server that was shut down.
import KeyBridge.Proofs.Endpoints

/-!
# Lifecycles

The state that a server has published last is that of its task, whatever it lives at. So the states
that it publishes one after the other are a walk along few edges (`walk_run`). A task that was
stopped publishes nothing more (`Staged.straggle_eq`), and a server that was shut down does nothing
until it is started again (`Down.act_eq`).

A shutdown does not stop a call of the handler. But nobody answers, writes to a client, binds or
begins a call unless a server acts: what is left to happen is that calls are carried out that were
begun before, each of them once (`Unattended`).
-/

namespace KeyBridge

/-! ## Transitions -/

namespace ServerState

/-- The ways from one published state to the next. -/
inductive Edge : ServerState → ServerState → Prop where
  | bound : Edge .idle .listening
  | accepted : Edge .listening .connected
  | parted : Edge .connected .listening
  | lost : Edge .listening .idle
  | cutOff : Edge .connected .idle

/-- Transitions that follow one another along edges, from one state to another. -/
inductive Walk : ServerState → List (ServerState × ServerState) → ServerState → Prop where
  | stay (st : ServerState) : Walk st [] st
  | go {prev next last : ServerState} {steps : List (ServerState × ServerState)} :
      Edge prev next → Walk next steps last → Walk prev ((prev, next) :: steps) last

theorem Walk.append {st mid last : ServerState} {steps more : List (ServerState × ServerState)}
    (h : Walk st steps mid) (h' : Walk mid more last) : Walk st (steps ++ more) last := by
  induction h with
  | stay st => exact h'
  | go hedge _ ih => exact .go hedge (ih h')

/-- A server can always become idle. -/
theorem eq_idle_or_edge (st : ServerState) : st = .idle ∨ Edge st .idle := by
  cases st with
  | idle => exact .inl rfl
  | listening => exact .inr .lost
  | connected => exact .inr .cutOff

end ServerState

/-- The transition of a server that an event tells of, and the name of the server. A reset leads to
the idle state. -/
def Event.transition? : Event → Option (String × ServerState × ServerState)
  | .pipeState name prev next => some (name, prev, next)
  | .pipeStateReset name prev => some (name, prev, .idle)
  | _ => none

/-- The transitions that a log tells of. -/
def transitions (events : List Event) : List (String × ServerState × ServerState) :=
  events.filterMap Event.transition?

@[simp] theorem transitions_append (events more : List Event) :
    transitions (events ++ more) = transitions events ++ transitions more := List.filterMap_append

/-- Whether a server makes a note of an event. -/
def Event.ofServer : Event → Bool
  | .pipeStarted _ => true
  | .pipeShutdown _ => true
  | .pipeClientDisconnected _ => true
  | .pipeState _ _ _ => true
  | .pipeStateReset _ _ => true
  | .pipeRebuild _ _ => true
  | .pipeHandlerFailed => true
  | _ => false

namespace Host

/-- What servers logged. -/
def reports (h : Host) : List Event := h.events.filter Event.ofServer

variable {h h' h'' : Host}

theorem reports_note (h : Host) {e : Event} (he : e.ofServer = false) :
    (h.note e).reports = h.reports := by
  rw [reports, note, List.filter_append, List.filter_cons, he]
  exact List.append_nil _

theorem transitions_note (h : Host) {e : Event} (he : e.transition? = none) :
    transitions (h.note e).events = transitions h.events := by
  rw [note, transitions_append, transitions, transitions, List.filterMap_cons, he]
  exact List.append_nil _

/-- Only servers log transitions. -/
theorem transitions_of_reports (hr : h'.reports = h.reports) :
    transitions h'.events = transitions h.events := by
  have hreported (h : Host) : transitions h.events = h.reports.filterMap Event.transition? := by
    rw [reports, List.filterMap_filter, transitions]
    congr 1
    funext e
    cases e <;> rfl
  rw [hreported, hr, ← hreported]

/-- Callbacks log nothing in the name of a server. -/
theorem Leads.reports_eq (hl : h.Leads h') : h'.reports = h.reports := by
  induction hl with
  | same => rfl
  | called => rfl
  | miss h message => exact h.reports_note rfl
  | increment => rfl
  | register h into header callback => exact reports_note _ rfl
  | trans _ _ ih ih' => exact ih'.trans ih

/-- Notes were made, none of them by a server, and callbacks registered. -/
inductive Hushed (h : Host) : Host → Prop where
  | same : Hushed h h
  | noted {h' : Host} {e : Event} : Hushed h h' → e.ofServer = false → Hushed h (h'.note e)
  | registered {h' : Host} (into : RegistryId) (header : String) (callback : Callback) :
      Hushed h h' → Hushed h (h'.register into header callback).2

theorem Hushed.reports_eq (hh : h.Hushed h') : h'.reports = h.reports := by
  induction hh with
  | same => rfl
  | noted _ he ih => exact (reports_note _ he).trans ih
  | registered into header callback _ ih => exact (Leads.register ..).reports_eq.trans ih

theorem Hushed.lives (hh : h.Hushed h') : Lives h [] h' := by
  induction hh with
  | same => exact .begin
  | noted _ _ ih => exact ih.noted _
  | registered into header callback _ ih => exact ih.registered into header callback

end Host

theorem Handler.transitions_reply (handler : Handler) (message : String) (h : Host) :
    transitions (handler.reply message h).2.events = transitions h.events := by
  have hrun := Host.transitions_of_reports (handler.leads_run message h).reports_eq
  rw [handler.reply_eq]
  rcases handler.hostAfter_eq message h with heq | heq
  · rw [heq]
    exact hrun
  · rw [heq, Host.transitions_note _ rfl]
    exact hrun

/-! ## Sites -/

namespace Site

theorem hushed_releasePath (site : Site) (path : Option String) :
    site.host.Hushed (site.releasePath path).host
      ∧ (site.releasePath path).network = site.network := by
  cases path with
  | none => exact ⟨.same, rfl⟩
  | some path =>
    rw [releasePath, Files.releaseSocket]
    rcases site.files.remove path with error | files
    · cases error with
      | notFound => exact ⟨.same, rfl⟩
      | _ => exact ⟨.noted .same rfl, rfl⟩
    · exact ⟨.same, rfl⟩

theorem hushed_release (site : Site) (e : Endpoint) :
    site.host.Hushed (site.release e).host
      ∧ (site.release e).network = site.network.dropListener e.listener :=
  hushed_releasePath { site with network := site.network.dropListener e.listener } e.path

theorem hushed_bind (site : Site) (name : String) :
    site.host.Hushed (site.bind name).2.host := by
  rw [bind]
  split
  · rename_i directory _
    rcases hbind : site.files.bindSocket directory name site.network.nextListener
      with ⟨error | path, files⟩
    · simp only [bindSocket, hbind]
      exact .same
    · simp only [bindSocket, hbind]
      exact .noted .same rfl
  · split
    · exact .same
    · exact .same

end Site

/-! ## Stages -/

/-- The state of a server with a task. -/
def Task.state : Task → ServerState
  | .starting => .idle
  | .waiting _ => .idle
  | .listening _ => .listening
  | .serving _ _ _ => .connected

namespace Server

open ServerState

/-- The state that a server has to be in, by what it does. -/
def stage (s : Server) : ServerState := (s.task.map Task.state).getD .idle

theorem stage_of_task {s : Server} {t : Task} (h : s.task = some t) : s.stage = t.state := by
  rw [stage, h]
  rfl

theorem stage_of_idle {s : Server} (h : s.task = none) : s.stage = .idle := by
  rw [stage, h]
  rfl

/-- The server comes to a state that fits what it does, by transitions that are logged under its
name and follow one another. -/
structure Walks (s : Server) (site : Site) (s' : Server) (site' : Site) : Prop where
  profile : s'.profile = s.profile
  stage : s'.state = s'.stage
  /-- The tasks that were stopped before stay behind. -/
  current : s.current ≤ s'.current
  walk : ∃ steps, transitions site'.host.events
      = transitions site.host.events ++ steps.map (fun t => (s.name, t))
    ∧ Walk s.state steps s'.state

section

variable {s : Server} {site site₁ : Site} {t : Task}

theorem walks_goOn (hsite : transitions site₁.host.events = transitions site.host.events)
    (ht : s.task = some t) {next : ServerState} {t' : Task} (hnext : t'.state = next)
    (hedge : s.state = next ∨ Edge s.state next) :
    s.Walks site (s.goOn next t' site₁).1 (s.goOn next t' site₁).2 := by
  rw [goOn_eq]
  refine ⟨rfl, hnext.symm, Nat.le_of_eq (current_of_task ht), ?_⟩
  rw [Site.events_log, transitions_append, hsite, announcement]
  by_cases hsame : s.state = next
  · rw [if_pos hsame]
    exact ⟨[], rfl, hsame ▸ .stay _⟩
  · rw [if_neg hsame]
    exact ⟨[(s.state, next)], rfl, .go (hedge.resolve_left hsame) (.stay next)⟩

theorem walks_rebuild (hsite : transitions site₁.host.events = transitions site.host.events)
    (ht : s.task = some t) (error : String) :
    s.Walks site (s.rebuild error site₁).1 (s.rebuild error site₁).2 := by
  have hnoted := (site₁.host.transitions_note (e := .pipeRebuild s.name error) rfl).trans hsite
  exact walks_goOn hnoted ht rfl (eq_idle_or_edge s.state)

theorem walks_breakDown (hsite : transitions site₁.host.events = transitions site.host.events)
    (ht : s.task = some t) (e : Endpoint) (error : NetworkError) :
    s.Walks site (s.breakDown e error site₁).1 (s.breakDown e error site₁).2 := by
  have hreleased := Host.transitions_of_reports (site₁.hushed_release e).1.reports_eq
  exact walks_rebuild (hreleased.trans hsite) ht error.message

/-- A server that goes on with what it does. -/
theorem walks_stay (hsite : transitions site₁.host.events = transitions site.host.events)
    {t' : Task} (hstage : s.state = s.stage) (ht : s.task = some t) (hkept : t'.state = t.state) :
    s.Walks site { s with task := some t' } site₁ := by
  refine ⟨rfl, ?_, Nat.le_of_eq (current_of_task ht), [], ?_, .stay s.state⟩
  · exact (hstage.trans (stage_of_task ht)).trans hkept.symm
  · rw [hsite]
    exact (List.append_nil _).symm

theorem walks_establish (ht : s.task = some t) (hidle : s.state = .idle) :
    s.Walks site (s.establish site).1 (s.establish site).2 := by
  have hbind := Host.transitions_of_reports (site.hushed_bind s.name).reports_eq
  rw [establish]
  split
  · rename_i e site₁ heq
    rw [heq] at hbind
    exact walks_goOn hbind ht rfl (.inr (hidle ▸ .bound))
  · rename_i error site₁ heq
    rw [heq] at hbind
    exact walks_rebuild hbind ht error.message

/-- Whatever a server does, it publishes the state that it comes to. -/
theorem walks_move {r : Server × Site} (hstage : s.state = s.stage) (h : s.move site = some r) :
    s.Walks site r.1 r.2 := by
  unfold move at h
  split at h
  · cases h
  · rename_i ht
    cases h
    exact walks_establish ht (hstage.trans (stage_of_task ht))
  · rename_i ht
    cases h
    exact walks_establish ht (hstage.trans (stage_of_task ht))
  · cases h
  · rename_i e ht
    have hlistening : s.state = .listening := hstage.trans (stage_of_task ht)
    unfold takeClient at h
    split at h
    · cases h
    · cases h
      exact walks_goOn (by rfl) ht rfl (.inr (hlistening ▸ .accepted))
    · cases h
      exact walks_breakDown (by rfl) ht e _
  · rename_i e conn bytes ht
    cases h
    exact walks_stay (s.handler.transitions_reply _ _) hstage ht rfl
  · rename_i e conn ht
    have hconnected : s.state = .connected := hstage.trans (stage_of_task ht)
    unfold hear at h
    split at h
    · cases h
    · cases h
      exact walks_goOn (Host.transitions_note _ rfl) ht rfl (.inr (hconnected ▸ .parted))
    · cases h
      exact walks_stay (by rfl) hstage ht rfl
    · cases h
      exact walks_breakDown (by rfl) ht e _
  · rename_i e conn unsent _ ht
    unfold tell at h
    split at h
    · cases h
    · cases h
      exact walks_stay (by rfl) hstage ht rfl
    · cases h
      exact walks_breakDown (by rfl) ht e _

theorem walks_start (hstage : s.state = s.stage) :
    s.Walks site (s.start site).1 (s.start site).2 := by
  rcases ht : s.task with _ | t
  · rw [start_of_task_none ht]
    refine ⟨rfl, hstage.trans (stage_of_idle ht), ?_, [], ?_, .stay s.state⟩
    · rw [current_of_none ht]
      exact Nat.le_refl _
    · exact (site.host.transitions_note rfl).trans (List.append_nil _).symm
  · rw [start, if_pos (by rw [isRunning, ht]; rfl)]
    exact ⟨rfl, hstage, Nat.le_refl _, [], (List.append_nil _).symm, .stay s.state⟩

theorem walks_shutdown (s : Server) (site : Site) :
    s.Walks site (s.shutdown site).1 (s.shutdown site).2 := by
  rw [shutdown_eq]
  refine ⟨rfl, rfl, ?_, ?_⟩
  · rw [current_of_none (s := s.stopped) rfl, current]
    split
    · exact Nat.le_succ _
    · exact Nat.le_refl _
  · have hstopped : transitions (if s.isRunning then [.pipeShutdown s.name] else []) = [] := by
      split <;> rfl
    rw [Site.events_log, transitions_append, farewell, transitions_append, hstopped]
    by_cases hidle : s.state = .idle
    · rw [if_pos hidle]
      exact ⟨[], rfl, hidle ▸ .stay _⟩
    · rw [if_neg hidle]
      exact ⟨[(s.state, .idle)], rfl, .go ((eq_idle_or_edge s.state).resolve_left hidle) (.stay _)⟩

end

end Server

/-- How a server is. -/
structure Server.Condition where
  state : ServerState
  /-- The state that fits what the server does. -/
  stage : ServerState
  running : Bool
  started : Nat
  call? : Option Call

/-- How a server is that was not started yet. -/
def Server.Condition.fresh : Server.Condition := ⟨.idle, .idle, false, 0, none⟩

def Server.condition (s : Server) : Server.Condition :=
  ⟨s.state, s.stage, s.isRunning, s.started, s.call?⟩

/-- A task was stopped if its number is less than this. -/
def Server.Condition.current (c : Server.Condition) : Nat :=
  if c.running then c.started else c.started + 1

/-! ## Networks that nobody serves -/

namespace Network

/-- No name was bound, and nothing was written to a client. -/
structure Unserved (n n' : Network) : Prop where
  bound : n'.bound = n.bound
  replies : ∀ l, (n'.link l).fromHost.bytes <:+ (n.link l).fromHost.bytes

variable {n n' n'' : Network}

theorem Unserved.refl (n : Network) : n.Unserved n := ⟨rfl, fun _ => List.suffix_refl _⟩

theorem Unserved.trans (h : n.Unserved n') (h' : n'.Unserved n'') : n.Unserved n'' :=
  ⟨h'.bound.trans h.bound, fun l => (h'.replies l).trans (h.replies l)⟩

theorem suffix_of_link_eq {l l' : Link} (h : l' = l) : l'.fromHost.bytes <:+ l.fromHost.bytes :=
  h ▸ List.suffix_refl _

theorem unserved_setLink (id : LinkId) {l' : Link}
    (h : l'.fromHost.bytes <:+ (n.link id).fromHost.bytes) : n.Unserved (n.setLink id l') := by
  refine ⟨bound_of_listeners rfl, fun l => ?_⟩
  by_cases hid : l = id
  · subst hid
    by_cases hlt : l.index < n.links.length
    · rw [link_setLink_self n l l' hlt]
      exact h
    · have hnone : n.links.length ≤ l.index := Nat.le_of_not_lt hlt
      have hnone' : (n.setLink l l').links.length ≤ l.index := by simpa using hnone
      exact suffix_of_link_eq ((link_of_le _ l hnone').trans (link_of_le n l hnone).symm)
  · exact suffix_of_link_eq (link_setLink_ne n l' hid)

theorem unserved_dropLink (n : Network) (id : LinkId) : n.Unserved (n.dropLink id) :=
  unserved_setLink id (List.suffix_refl _)

theorem unserved_dropListener (n : Network) (e : ListenerId) : n.Unserved (n.dropListener e) := by
  refine ⟨bound_dropListener n e, fun l => ?_⟩
  rw [link_dropListener]
  split
  · exact List.suffix_refl _
  · exact List.suffix_refl _

theorem unserved_newLink (n : Network) {l : Link} (hfresh : l.fromHost.bytes = []) :
    n.Unserved (n.newLink l).2 := by
  refine ⟨bound_of_listeners rfl, fun id => ?_⟩
  rw [link_newLink]
  split
  · rw [hfresh]
    exact List.nil_suffix
  · exact List.suffix_refl _

theorem unserved_enqueue {e : ListenerId} {lis : Listener} (item : Incoming)
    (hl : n.listeners[e.index]? = some lis) : n.Unserved (n.enqueue e item) :=
  ⟨bound_enqueue item hl, fun _ => List.suffix_refl _⟩

theorem unserved_connectTo {e : ListenerId} {lis : Listener}
    (hl : n.listeners[e.index]? = some lis) : n.Unserved (n.connectTo e).2 :=
  (n.unserved_newLink rfl).trans (unserved_enqueue _ hl)

theorem unserved_write_client {link : LinkId} {bytes : List UInt8} {r : Progress Nat}
    (h : n.write link .client bytes = (r, n')) : n.Unserved n' := by
  rw [write_client] at h
  split at h
  · cases h
    exact .refl n
  · split at h
    · cases h
      exact .refl n
    · cases h
      exact unserved_setLink link (List.suffix_refl _)

end Network

theorem Site.unserved_connect {site site' : Site} {channel : String} {link : LinkId}
    (h : site.connect channel = .ok (link, site')) :
    site'.host = site.host ∧ site.network.Unserved site'.network := by
  unfold connect at h
  split at h
  · unfold connectSocket at h
    split at h
    · cases h
    · rename_i e _
      split at h
      · rename_i hlive
        obtain ⟨lis, hl, -⟩ := (Option.any_eq_true _ _).1 hlive
        cases h
        exact ⟨rfl, Network.unserved_connectTo hl⟩
      · cases h
  · split at h
    · cases h
    · rename_i n hconnect
      rw [Network.connect] at hconnect
      rcases hreach : site.network.reach channel with error | e
      · rw [hreach] at hconnect
        cases hconnect
      · obtain ⟨lis, hl, -, -⟩ := Network.reach_ok hreach
        rw [hreach] at hconnect
        cases hconnect
        cases h
        exact ⟨rfl, Network.unserved_connectTo hl⟩

/-! ## Acts of nobody's server -/

namespace Switchboard

/-- The server that acts: it moves, or is started or shut down. -/
def Act.actor? : Act → Option ServerId
  | .start id => some id
  | .shutdown id => some id
  | .move id => some id
  | _ => none

/-- How a server is; one that does not exist yet is like one that was not started. -/
def condition (b : Switchboard) (id : ServerId) : Server.Condition :=
  ((b.server? id).map Server.condition).getD .fresh

variable {b b' : Switchboard} {a : Act} {id : ServerId}

theorem condition_of_server? {s : Server} (hs : b.server? id = some s) :
    b.condition id = s.condition := by
  rw [condition, hs]
  rfl

theorem condition_of_servers (h : b'.servers = b.servers) (id : ServerId) :
    b'.condition id = b.condition id := by
  rw [condition, server?, h]
  rfl

theorem condition_of_set {s s' : Server} {actor : ServerId} (hs : b.server? actor = some s)
    (hservers : b'.servers = b.servers.set actor.index s') (id : ServerId) :
    b'.condition id = if id = actor then s'.condition else b.condition id := by
  have hlt : actor.index < b.servers.length := (List.getElem?_eq_some_iff.1 hs).1
  rw [condition, server?, hservers]
  split
  · rename_i hid
    rw [hid, List.getElem?_set_self hlt]
    rfl
  · rename_i hid
    have hne : actor.index ≠ id.index := fun h => hid (congrArg ServerId.mk h.symm)
    rw [List.getElem?_set_ne hne]
    rfl

theorem condition_add (name : String) (handler : Handler) (buffer backoff : Nat) (id : ServerId) :
    (b.act (.add name handler buffer backoff)).condition id = b.condition id := by
  have hservers : (b.act (.add name handler buffer backoff)).servers
      = b.servers ++ [Server.create name handler buffer backoff] := rfl
  rw [condition, server?, hservers, condition, server?]
  rcases Nat.lt_trichotomy id.index b.servers.length with hlt | heq | hgt
  · rw [List.getElem?_append_left hlt]
  · rw [heq, List.getElem?_concat_length, List.getElem?_eq_none (Nat.le_refl _)]
    rfl
  · have hlength : (b.servers ++ [Server.create name handler buffer backoff]).length ≤ id.index := by
      rw [List.length_append]
      exact hgt
    rw [List.getElem?_eq_none hlength, List.getElem?_eq_none (Nat.le_of_lt hgt)]

theorem condition_elapse (time : Nat) (id : ServerId) :
    (b.elapse time).condition id = b.condition id := by
  rw [condition, server?, elapse, List.getElem?_map, Option.map_map]
  apply congrArg (fun f => ((b.servers[id.index]?).map f).getD _)
  funext s
  rw [Function.comp_apply, Server.elapse]
  split
  · rename_i ht
    simp [Server.condition, Server.stage, Server.isRunning, Server.call?, ht, Task.state]
  · rfl

/-- No handler ran, no server logged anything or came to another stage, no name was bound, nothing
was written to a client and no task stopped. -/
structure Untouched (b b' : Switchboard) : Prop where
  hushed : b.site.host.Hushed b'.site.host
  unserved : b.site.network.Unserved b'.site.network
  condition : ∀ id, b'.condition id = b.condition id
  unawaited : b'.unawaited = b.unawaited
  abandoned : ∀ t ∈ b'.abandoned, t ∈ b.abandoned

theorem Untouched.refl (b : Switchboard) : b.Untouched b :=
  ⟨.same, .refl _, fun _ => rfl, rfl, fun _ ht => ht⟩

/-- Another network is there, and clients have other bytes to write. -/
theorem untouched_of_network {n : Network} {unsent : List (LinkId × List UInt8)}
    (hn : b.site.network.Unserved n) : b.Untouched { b.withNetwork n with unsent := unsent } :=
  ⟨.same, hn, fun _ => rfl, rfl, fun _ ht => ht⟩

theorem Untouched.putOff (h : b.Untouched b') (link : LinkId) (bytes : List UInt8) :
    b.Untouched (b'.putOff link bytes) := by
  rw [Switchboard.putOff]
  split
  · exact h
  · exact ⟨h.hushed, h.unserved, h.condition, h.unawaited, h.abandoned⟩

theorem untouched_connect (b : Switchboard) (channel : String) :
    b.Untouched (b.act (.connect channel)) := by
  rcases hconnect : b.site.connect channel with error | ⟨link, site⟩
  · have heq : b.connect channel = .error error := by rw [connect, hconnect]; rfl
    rw [act, heq]
    exact .refl b
  · have heq : b.connect channel = .ok (link, { b with site := site }) := by
      rw [connect, hconnect]
      rfl
    obtain ⟨hhost, hunserved⟩ := Site.unserved_connect hconnect
    rw [act, heq]
    exact ⟨hhost ▸ .same, hunserved, fun _ => rfl, rfl, fun _ ht => ht⟩

theorem untouched_send (b : Switchboard) (link : LinkId) (bytes : List UInt8) :
    b.Untouched (b.act (.send link bytes)) := by
  rw [act, send]
  split
  · exact .refl b
  · split
    · exact .refl b
    · exact (Untouched.refl b).putOff link bytes
    · rename_i count n hwrite
      exact (untouched_of_network (Network.unserved_write_client hwrite)).putOff link _

theorem untouched_write (b : Switchboard) (index : Nat) :
    b.Untouched (b.act (.write index)) := by
  rw [act, writeAt]
  split
  · exact .refl b
  · split
    · exact untouched_of_network (.refl _)
    · exact .refl b
    · rename_i link bytes _ count n hwrite
      exact untouched_of_network (Network.unserved_write_client hwrite)

theorem untouched_failAccept (b : Switchboard) (name : String) :
    b.Untouched (b.act (.failAccept name)) := by
  rw [act]
  rcases hreach : b.site.network.reach name with error | e
  · rw [failAccept_error hreach]
    exact .refl b
  · obtain ⟨l, hl, -, -⟩ := Network.reach_ok hreach
    rw [failAccept_ok hreach]
    exact untouched_of_network (Network.unserved_enqueue _ hl)

theorem untouched_failConn (b : Switchboard) (name : String) (how : Breakage) :
    b.Untouched (b.act (.failConn name how)) := by
  rw [act]
  rcases hreach : b.site.network.reach name with error | e
  · rw [failConn_error how hreach]
    exact .refl b
  · obtain ⟨l, hl, -, -⟩ := Network.reach_ok hreach
    rw [failConn_ok how hreach]
    have hnew := b.site.network.unserved_newLink (l := Link.fresh.drop) rfl
    exact untouched_of_network (hnew.trans (Network.unserved_enqueue _ hl))

theorem hushed_taskRelease (t : Task) (site : Site) :
    site.host.Hushed (t.release site).host
      ∧ site.network.Unserved (t.release site).network := by
  cases t with
  | starting => exact ⟨.same, .refl _⟩
  | waiting time => exact ⟨.same, .refl _⟩
  | listening e =>
    obtain ⟨hhushed, hnetwork⟩ := site.hushed_release e
    exact ⟨hhushed, hnetwork ▸ site.network.unserved_dropListener e.listener⟩
  | serving e conn errand =>
    obtain ⟨hhushed, hnetwork⟩ :=
      (site.withNetwork (conn.drop site.network)).hushed_release e
    have hdropped := site.network.unserved_dropLink conn.link
    exact ⟨hhushed, hnetwork ▸ hdropped.trans (Network.unserved_dropListener _ e.listener)⟩

theorem untouched_letGo (b : Switchboard) (index : Nat) :
    b.Untouched (b.act (.letGo index)) := by
  rw [act, letGoAt]
  split
  · exact .refl b
  · rename_i t _
    obtain ⟨hhushed, hunserved⟩ := hushed_taskRelease t.task b.site
    exact ⟨hhushed, hunserved, fun _ => rfl, rfl, fun _ ht => List.mem_of_mem_eraseIdx ht⟩

/-! ## Servers and the tasks behind them -/

/-- Every server is in the state that fits what it does, and tasks that were stopped are behind their
servers. -/
structure Staged (b : Switchboard) : Prop where
  stage : ∀ id, (b.condition id).state = (b.condition id).stage
  outdated : ∀ t ∈ b.abandoned, t.number < (b.condition t.server).current

theorem staged_create (site : Site) : (create site).Staged where
  stage _ := rfl
  outdated _ ht := absurd ht List.not_mem_nil

theorem Staged.server (h : b.Staged) {s : Server} (hs : b.server? id = some s) :
    s.state = s.stage := by
  have hid := h.stage id
  rwa [condition_of_server? hs] at hid

theorem Staged.of_untouched (h : b.Staged) (hu : b.Untouched b') : b'.Staged where
  stage id := by
    rw [hu.condition]
    exact h.stage id
  outdated t ht := by
    rw [hu.condition]
    exact h.outdated t (hu.abandoned t ht)

/-- A task that was stopped publishes nothing, also when its server was started again. -/
theorem Staged.straggle_eq (h : b.Staged) (index : Nat) (next : ServerState) :
    b.act (.straggle index next) = b := by
  rw [act, straggleAt]
  rcases ht : b.abandoned[index]? with _ | t
  · rfl
  · dsimp only
    rcases hs : b.server? t.server with _ | s
    · rfl
    · have hlt := h.outdated t (List.mem_of_getElem? ht)
      rw [condition_of_server? hs] at hlt
      dsimp only
      rw [s.publish_of_isCancelled (Server.isCancelled_of_lt hlt)]
      exact put_self hs

/-- Unless a server acts or a call is carried out, nothing is touched. -/
theorem untouched_act (hstaged : b.Staged) (ha : a.actor? = none)
    (hcarry : ∀ index, a ≠ .carryOut index) : b.Untouched (b.act a) := by
  cases a with
  | add name handler buffer backoff =>
    exact ⟨.same, .refl _, condition_add name handler buffer backoff, rfl, fun _ ht => ht⟩
  | start => cases ha
  | shutdown => cases ha
  | register into header callback =>
    exact ⟨.registered into header callback .same, .refl _, fun _ => rfl, rfl, fun _ ht => ht⟩
  | connect channel => exact untouched_connect b channel
  | send link bytes => exact untouched_send b link bytes
  | receive link => exact untouched_of_network (Network.unserved_setLink link List.nil_suffix)
  | hangUp link => exact untouched_of_network (Network.unserved_dropLink _ link)
  | failAccept name => exact untouched_failAccept b name
  | failConn name how => exact untouched_failConn b name how
  | move => cases ha
  | write index => exact untouched_write b index
  | letGo index => exact untouched_letGo b index
  | straggle index next => exact (hstaged.straggle_eq index next).symm ▸ .refl b
  | carryOut index => exact absurd rfl (hcarry index)
  | elapse time => exact ⟨.same, .refl _, condition_elapse time, rfl, fun _ ht => ht⟩

/-! ## Acts of servers -/

/-- An act of a server changes nothing, or has it publish the state that it comes to. -/
theorem acts_of_actor (hstaged : b.Staged) (ha : a.actor? = some id) :
    b.act a = b ∨ ∃ s s', b.server? id = some s ∧ s.Walks b.site s' (b.act a).site
      ∧ (b.act a).servers = b.servers.set id.index s'
      ∧ ∀ t ∈ (b.act a).abandoned, t ∈ b.abandoned ∨ t.server = id ∧ t.number < s'.current := by
  cases a with
  | start i =>
    cases ha
    rw [act, Switchboard.start]
    rcases hs : b.server? id with _ | s
    · exact .inl rfl
    · have hwalks : s.Walks b.site (s.start b.site).1 (s.start b.site).2 :=
        Server.walks_start (hstaged.server hs)
      refine .inr ⟨s, (s.start b.site).1, rfl, ?_⟩
      simp only
      split
      · exact ⟨hwalks, rfl, fun t ht => .inl ht⟩
      · exact ⟨hwalks, rfl, fun t ht => .inl ht⟩
  | shutdown i =>
    cases ha
    rw [act, Switchboard.shutdown]
    rcases hs : b.server? id with _ | s
    · exact .inl rfl
    · refine .inr ⟨s, (s.shutdown b.site).1, rfl, s.walks_shutdown b.site, rfl, fun t ht => ?_⟩
      rcases List.mem_append.1 ht with ht | ht
      · exact .inl ht
      · obtain ⟨task, -, rfl⟩ := List.mem_map.1 ht
        refine .inr ⟨rfl, ?_⟩
        rw [Server.shutdown_eq, Server.current_of_none rfl]
        exact Nat.lt_succ_self _
  | move i =>
    cases ha
    rw [act, moveServer]
    rcases hs : b.server? id with _ | s
    · exact .inl rfl
    · rcases hm : s.move b.site with _ | r
      · refine .inl ?_
        simp only [hm]
        rfl
      · have hwalks := s.walks_move (hstaged.server hs) hm
        refine .inr ⟨s, r.1, rfl, ?_⟩
        simp only [hm, Option.map_some, Option.getD_some]
        split
        · exact ⟨hwalks, rfl, fun t ht => .inl ht⟩
        · exact ⟨hwalks, rfl, fun t ht => .inl ht⟩
  | _ => cases ha

/-- A call that is carried out is the handler's business. -/
theorem condition_carryOut (b : Switchboard) (index : Nat) (id : ServerId) :
    (b.act (.carryOut index)).condition id = b.condition id := by
  rw [act, carryOutAt]
  rcases b.unawaited[index]? with _ | k
  · rfl
  · exact condition_of_servers rfl id

theorem Staged.act (h : b.Staged) (a : Act) : (b.act a).Staged := by
  cases ha : a.actor? with
  | none =>
    by_cases hcarry : ∃ index, a = .carryOut index
    · obtain ⟨index, rfl⟩ := hcarry
      have habandoned : (b.act (.carryOut index)).abandoned = b.abandoned := by
        rw [Switchboard.act, carryOutAt]
        rcases b.unawaited[index]? with _ | k <;> rfl
      refine ⟨fun id => ?_, fun t ht => ?_⟩
      · rw [condition_carryOut]
        exact h.stage id
      · rw [condition_carryOut]
        exact h.outdated t (habandoned ▸ ht)
    · exact h.of_untouched (untouched_act h ha fun index heq => hcarry ⟨index, heq⟩)
  | some actor =>
    rcases acts_of_actor h ha with heq | ⟨s, s', hs, hwalks, hservers, habandoned⟩
    · rw [heq]
      exact h
    · refine ⟨fun id => ?_, fun t ht => ?_⟩
      · rw [condition_of_set hs hservers]
        split
        · exact hwalks.stage
        · exact h.stage id
      · rw [condition_of_set hs hservers]
        split
        · rename_i hactor
          rcases habandoned t ht with hbefore | ⟨-, hlt⟩
          · have hlt := h.outdated t hbefore
            rw [hactor, condition_of_server? hs] at hlt
            exact Nat.lt_of_lt_of_le hlt hwalks.current
          · exact hlt
        · rename_i hother
          rcases habandoned t ht with hbefore | ⟨hactor, -⟩
          · exact h.outdated t hbefore
          · exact absurd hactor hother

theorem Staged.run (h : b.Staged) (acts : List Act) : (b.run acts).Staged := by
  induction acts generalizing b with
  | nil => exact h
  | cons a acts ih => exact ih (h.act a)

/-! ## Calls that nobody waits for -/

/-- The calls that are carried out in a run. -/
def handled (b : Switchboard) : List Act → List Call
  | [] => []
  | a :: acts => (b.carriedOut a).toList ++ handled (b.act a) acts

/-- Nobody is attended to in a run: no server logs anything or comes to another stage, no name is
bound and nothing is written to a client. Calls are carried out that were begun before the run and
that nobody waits for, each of them once, and apart from that the host is left alone. -/
structure Unattended (b : Switchboard) (acts : List Act) : Prop where
  reports : (b.run acts).site.host.reports = b.site.host.reports
  unserved : b.site.network.Unserved (b.run acts).site.network
  condition : ∀ id, (b.run acts).condition id = b.condition id
  handled : (b.handled acts ++ (b.run acts).unawaited).Perm b.unawaited
  lives : Lives b.site.host (b.story acts) (b.run acts).site.host

theorem Unattended.nil (b : Switchboard) : b.Unattended [] :=
  ⟨rfl, .refl _, fun _ => rfl, .refl _, .begin⟩

theorem Unattended.cons {acts : List Act} (h : b.Unattended [a]) (h' : (b.act a).Unattended acts) :
    b.Unattended (a :: acts) where
  reports := h'.reports.trans h.reports
  unserved := h.unserved.trans h'.unserved
  condition id := (h'.condition id).trans (h.condition id)
  handled := by
    have hfirst := h.handled
    rw [Switchboard.handled, Switchboard.handled, List.append_nil] at hfirst
    rw [Switchboard.handled, List.append_assoc]
    exact (h'.handled.append_left _).trans hfirst
  lives := by
    have hfirst := h.lives
    rw [story, story, List.append_nil] at hfirst
    exact hfirst.trans h'.lives

/-- Nobody is attended to where nothing is touched. -/
theorem Untouched.unattended (h : b.Untouched (b.act a)) (hnone : b.carriedOut a = none) :
    b.Unattended [a] where
  reports := h.hushed.reports_eq
  unserved := h.unserved
  condition := h.condition
  handled := by
    simp only [Switchboard.handled, hnone, run_cons, run_nil, h.unawaited]
    exact .refl _
  lives := by
    rw [story, story, List.append_nil]
    exact h.hushed.lives.of_silent fun i hi => call?_observe hnone hi

/-- A call that is carried out is one that was begun. -/
theorem unattended_carryOut (b : Switchboard) (index : Nat) : b.Unattended [.carryOut index] := by
  rcases hk : b.unawaited[index]? with _ | k
  · have hsame : b.act (.carryOut index) = b := by simp only [act, carryOutAt, hk]
    have huntouched : b.Untouched (b.act (.carryOut index)) := hsame.symm ▸ .refl b
    exact huntouched.unattended hk
  · have hact : b.act (.carryOut index)
        = { b with site := k.carryOut b.site, unawaited := b.unawaited.eraseIdx index } := by
      simp only [act, carryOutAt, hk]
    obtain ⟨hlt, hget⟩ := List.getElem?_eq_some_iff.1 hk
    refine ⟨?_, ?_, ?_, ?_, ?_⟩
    · rw [run_cons, hact]
      exact (k.handler.leads_run _ _).reports_eq
    · rw [run_cons, hact]
      exact .refl _
    · exact fun id => condition_carryOut b index id
    · simp only [handled, carriedOut, hk, run_cons, run_nil, hact, Option.toList_some,
        List.append_nil, List.singleton_append]
      rw [← hget]
      exact List.getElem_cons_eraseIdx_perm hlt
    · simp only [story, observe, carriedOut, hk, run_cons, run_nil, hact, Option.toList_some,
        List.map_cons, List.map_nil, List.append_nil]
      exact Lives.begin.answered k

/-- If no server acts, nobody is attended to. -/
theorem unattended_act (hstaged : b.Staged) (ha : a.actor? = none) : b.Unattended [a] := by
  by_cases hcarry : ∃ index, a = .carryOut index
  · obtain ⟨index, rfl⟩ := hcarry
    exact unattended_carryOut b index
  · have huntouched := untouched_act hstaged ha fun index heq => hcarry ⟨index, heq⟩
    refine huntouched.unattended ?_
    cases a with
    | move => cases ha
    | carryOut index => exact absurd ⟨index, rfl⟩ hcarry
    | _ => rfl

/-- No call is begun. -/
theorem Unattended.begun {acts : List Act} (h : b.Unattended acts) {k : Call}
    (hk : (b.run acts).Begun k) : b.Begun k := by
  rcases hk with hk | ⟨id, s, hs, hk⟩
  · exact .inl (h.handled.subset (List.mem_append_right _ hk))
  · have hcall : (b.condition id).call? = some k := by
      rw [← h.condition id, condition_of_server? hs]
      exact hk
    rcases hs' : b.server? id with _ | s'
    · have hfresh : b.condition id = .fresh := by rw [Switchboard.condition, hs']; rfl
      rw [hfresh] at hcall
      cases hcall
    · rw [condition_of_server? hs'] at hcall
      exact .inr ⟨id, s', hs', hcall⟩

/-! ## Calls that are begun -/

/-- Only moves begin calls. -/
theorem Change.pending (h : Change b a b') (hmove : ∀ id, a ≠ .move id)
    (hcarry : ∀ index, a ≠ .carryOut index) : b'.pending.Perm b.pending := by
  cases h with
  | add name handler buffer backoff => exact .of_eq (pending_add rfl)
  | start id s hs ht => exact start_idle hs ht ▸ pending_start b id
  | shutdown id s hs => exact shutdown_eq hs ▸ pending_shutdown b id
  | send link bytes =>
    rw [Switchboard.pending, unawaited_putOff, servers_putOff]
    exact .refl _
  | move id => exact absurd rfl (hmove id)
  | carryOut index => exact absurd rfl (hcarry index)
  | elapse time => exact .of_eq (pending_elapse b time)
  | _ => exact .refl _

/-- The transitions that an act adds to the log. -/
def logged (b : Switchboard) (a : Act) : List (String × ServerState × ServerState) :=
  (transitions (b.act a).site.host.events).drop (transitions b.site.host.events).length

/-- A server is idle and not running. -/
structure Down (b : Switchboard) (id : ServerId) : Prop where
  state : (b.condition id).state = .idle
  running : (b.condition id).running = false

theorem down_shutdown (b : Switchboard) (id : ServerId) : (b.act (.shutdown id)).Down id := by
  rw [act]
  rcases hs : b.server? id with _ | s
  · rw [Switchboard.shutdown, hs]
    have hfresh : b.condition id = .fresh := by rw [condition, hs]; rfl
    exact ⟨congrArg Server.Condition.state hfresh, congrArg Server.Condition.running hfresh⟩
  · have hcondition : (b.shutdown id).condition id = s.stopped.condition := by
      rw [shutdown_eq hs, condition_of_set hs rfl, if_pos rfl]
    exact ⟨congrArg Server.Condition.state hcondition,
      congrArg Server.Condition.running hcondition⟩

theorem Down.of_condition (h : b.Down id) (hcondition : b'.condition id = b.condition id) :
    b'.Down id :=
  ⟨hcondition ▸ h.state, hcondition ▸ h.running⟩

theorem Down.server (h : b.Down id) {s : Server} (hs : b.server? id = some s) :
    s.state = .idle ∧ s.task = none := by
  have hstate := h.state
  have hrunning := h.running
  rw [condition_of_server? hs] at hstate hrunning
  exact ⟨hstate, Option.not_isSome_iff_eq_none.1 (ne_true_of_eq_false hrunning)⟩

/-- A server that is down does nothing. -/
theorem Down.act_eq (h : b.Down id) (ha : a.actor? = some id) (hstart : a ≠ .start id) :
    b.act a = b := by
  cases a with
  | start i =>
    cases ha
    exact absurd rfl hstart
  | shutdown i =>
    cases ha
    rw [Switchboard.act]
    rcases hs : b.server? id with _ | s
    · rw [Switchboard.shutdown, hs]
    · obtain ⟨hstate, htask⟩ := h.server hs
      have hsame : s.stopped = s := by
        rw [Server.stopped, ← hstate, ← htask]
      have hsilent : s.farewell = [] := by
        simp [Server.farewell, Server.isRunning, hstate, htask]
      have hcall : s.call? = none := by simp [Server.call?, htask]
      have hput := put_self hs
      rw [shutdown_eq hs, hsame, hsilent, htask, hcall, Site.log_nil, hput, Option.toList_none,
        Option.toList_none, List.map_nil, List.append_nil, List.append_nil]
  | move i =>
    cases ha
    rw [Switchboard.act, moveServer]
    rcases hs : b.server? id with _ | s
    · rfl
    · have hstill : s.move b.site = none := by rw [Server.move, (h.server hs).2]
      simp only [hstill]
      rfl
  | _ => cases ha

theorem Down.act (h : b.Down id) (hstaged : b.Staged) (hstart : a ≠ .start id) :
    (b.act a).Down id := by
  cases ha : a.actor? with
  | none => exact h.of_condition ((unattended_act hstaged ha).condition id)
  | some actor =>
    by_cases hid : id = actor
    · subst hid
      rw [h.act_eq ha hstart]
      exact h
    · rcases acts_of_actor hstaged ha with heq | ⟨s, s', hs, -, hservers, -⟩
      · rw [heq]
        exact h
      · exact h.of_condition (by rw [condition_of_set hs hservers, if_neg hid])

theorem Down.run (h : b.Down id) (hstaged : b.Staged) {acts : List Act}
    (hstart : .start id ∉ acts) : (b.run acts).Down id := by
  induction acts generalizing b with
  | nil => exact h
  | cons a acts ih =>
    have hfirst : a ≠ .start id := fun heq => hstart (heq ▸ List.mem_cons_self)
    exact ih (h.act hstaged hfirst) (hstaged.act a) fun hmem => hstart (List.mem_cons_of_mem a hmem)

theorem Down.call?_eq (h : b.Down id) {s : Server} (hs : b.server? id = some s) :
    s.call? = none := by
  rw [Server.call?, (h.server hs).2]

/-- An act of a server that is down attends to nobody. -/
theorem Down.unattended_act (h : b.Down id) (ha : a.actor? = some id) (hstart : a ≠ .start id) :
    b.Unattended [a] := by
  have hsame := h.act_eq ha hstart
  have huntouched : b.Untouched (b.act a) := hsame.symm ▸ .refl b
  refine huntouched.unattended ?_
  cases a with
  | move i =>
    cases ha
    rcases hs : b.server? id with _ | s
    · simp [carriedOut, hs]
    · simp [carriedOut, hs, h.call?_eq hs]
  | carryOut => cases ha
  | _ => rfl

end Switchboard

end KeyBridge
