-- SUMMARY: What a move of a server can be, and what it changes.
import KeyBridge.Server.Basic

/-!
# Moves

`Server.Step` lists everything that a server at a site in memory can do without waiting, with all
that it changes. Every later proof about moves goes by its cases; `Server.step_of_move` is the only
place where the definition of `Server.move` is taken apart.
-/

namespace KeyBridge

/-! ## Sites -/

namespace Site

/-- Adds events to the log. -/
def log (s : Site) (events : List Event) : Site :=
  { s with host := { s.host with events := s.host.events ++ events } }

@[simp] theorem log_nil (s : Site) : s.log [] = s := by simp [log]

@[simp] theorem log_log (s : Site) (events more : List Event) :
    (s.log events).log more = s.log (events ++ more) := by simp [log]

theorem note_eq (s : Site) (e : Event) : s.note e = s.log [e] := rfl

@[simp] theorem network_log (s : Site) (events : List Event) :
    (s.log events).network = s.network := rfl

@[simp] theorem directory_log (s : Site) (events : List Event) :
    (s.log events).directory = s.directory := rfl

@[simp] theorem registries_log (s : Site) (events : List Event) :
    (s.log events).host.registries = s.host.registries := rfl

@[simp] theorem events_log (s : Site) (events : List Event) :
    (s.log events).host.events = s.host.events ++ events := rfl

/-- The site with another network. -/
def withNetwork (s : Site) (n : Network) : Site := { s with network := n }

@[simp] theorem network_withNetwork (s : Site) (n : Network) : (s.withNetwork n).network = n := rfl

@[simp] theorem directory_withNetwork (s : Site) (n : Network) :
    (s.withNetwork n).directory = s.directory := rfl

@[simp] theorem host_withNetwork (s : Site) (n : Network) : (s.withNetwork n).host = s.host := rfl

/-- The site with another host. -/
def withHost (s : Site) (h : Host) : Site := { s with host := h }

@[simp] theorem network_withHost (s : Site) (h : Host) : (s.withHost h).network = s.network := rfl

@[simp] theorem directory_withHost (s : Site) (h : Host) :
    (s.withHost h).directory = s.directory := rfl

@[simp] theorem host_withHost (s : Site) (h : Host) : (s.withHost h).host = h := rfl

theorem release_inMemory (s : Site) (e : Endpoint) (h : e.path = none) :
    s.release e = s.withNetwork (s.network.dropListener e.listener) := by
  simp [release, releasePath, h, withNetwork]

theorem bind_inMemory (s : Site) (name : String) (h : s.directory = none) :
    s.bind name =
      if s.network.isBound name then (.error (.network (.nameInUse name)), s)
      else (.ok ⟨s.network.nextListener, none⟩, s.withNetwork (s.network.openListener name)) := by
  simp only [bind, h, Network.bind]
  split
  · rename_i hb
    split at hb <;> simp_all
  · rename_i hb
    split at hb <;> simp_all [withNetwork]

theorem connect_inMemory (s : Site) (channel : String) (h : s.directory = none) :
    s.connect channel =
      match s.network.connect channel with
      | .error e => .error (.network e)
      | .ok (link, n) => .ok (link, s.withNetwork n) := by
  obtain ⟨network, files, directory, host⟩ := s
  cases h
  rfl

end Site

/-! ## Answers -/

/-- The text that goes back to the sender; it is empty if there is no reply. -/
def Answer.text : Answer → String
  | .reply text => text
  | .crashed => ""
  | .tooDeep => ""

/-- The host after a handler has answered: a handler that did not come back is noted. -/
def Handler.hostAfter (h : Handler) (message : String) (host : Host) : Host :=
  match h.run message host with
  | (.reply _, host) => host
  | (_, host) => host.note .pipeHandlerFailed

theorem Handler.reply_eq (h : Handler) (message : String) (host : Host) :
    h.reply message host = ((h.run message host).1.text, h.hostAfter message host) := by
  unfold reply hostAfter
  rcases h.run message host with ⟨_ | _ | _, host'⟩ <;> rfl

theorem Handler.hostAfter_eq (h : Handler) (message : String) (host : Host) :
    h.hostAfter message host = (h.run message host).2
      ∨ h.hostAfter message host = (h.run message host).2.note .pipeHandlerFailed := by
  unfold hostAfter
  rcases h.run message host with ⟨_ | _ | _, host'⟩
  · exact .inl rfl
  · exact .inr rfl
  · exact .inr rfl

/-! ## Servers -/

/-- What is left to write of a reply. -/
def Errand.unsent : Errand → List UInt8
  | .call _ => []
  | .reply unsent => unsent

/-- The endpoint that a task holds. -/
def Task.endpoint? : Task → Option Endpoint
  | .listening e => some e
  | .serving e _ _ => some e
  | _ => none

namespace Server

/-- What a server is made with: its name, its handler, its buffer and how long it waits. -/
abbrev Profile : Type := String × Handler × Nat × Nat

/-- What a server was made with. -/
def profile (s : Server) : Profile := (s.name, s.handler, s.buffer, s.backoff)

/-- The note that a server leaves when it publishes a state. -/
def announcement (s : Server) (next : ServerState) : List Event :=
  if s.state = next then [] else [.pipeState s.name s.state next]

/-- The server with another state and another task. -/
def turnTo (s : Server) (state : ServerState) (task : Task) : Server :=
  { s with state := state, task := some task }

@[simp] theorem task_turnTo (s : Server) (st : ServerState) (t : Task) :
    (s.turnTo st t).task = some t := rfl

@[simp] theorem state_turnTo (s : Server) (st : ServerState) (t : Task) :
    (s.turnTo st t).state = st := rfl

@[simp] theorem name_turnTo (s : Server) (st : ServerState) (t : Task) :
    (s.turnTo st t).name = s.name := rfl

@[simp] theorem handler_turnTo (s : Server) (st : ServerState) (t : Task) :
    (s.turnTo st t).handler = s.handler := rfl

@[simp] theorem started_turnTo (s : Server) (st : ServerState) (t : Task) :
    (s.turnTo st t).started = s.started := rfl

@[simp] theorem buffer_turnTo (s : Server) (st : ServerState) (t : Task) :
    (s.turnTo st t).buffer = s.buffer := rfl

/-- A task that was stopped publishes nothing. -/
theorem publish_of_isCancelled {s : Server} {number : Nat} (h : s.isCancelled number = true)
    (next : ServerState) (site : Site) : s.publish number next site = (s, site) := by
  simp [publish, h]

theorem goOn_eq (s : Server) (next : ServerState) (task : Task) (site : Site) :
    s.goOn next task site = (s.turnTo next task, site.log (s.announcement next)) := by
  have hown : Server.isCancelled { s with task := some task } s.started = false := by
    simp [isCancelled, isRunning]
  by_cases hstate : s.state = next
  · subst hstate
    simp [goOn, publish, turnTo, announcement]
  · simp [goOn, publish, hown, hstate, turnTo, announcement, Site.note_eq]

theorem rebuild_eq (s : Server) (error : String) (site : Site) :
    s.rebuild error site =
      (s.turnTo .idle (.waiting s.backoff),
        site.log (.pipeRebuild s.name error :: s.announcement .idle)) := by
  simp [rebuild, goOn_eq, Site.note_eq]

theorem breakDown_eq (s : Server) (e : Endpoint) (error : NetworkError) (site : Site)
    (h : e.path = none) :
    s.breakDown e error site =
      (s.turnTo .idle (.waiting s.backoff),
        (site.withNetwork (site.network.dropListener e.listener)).log
          (.pipeRebuild s.name error.message :: s.announcement .idle)) := by
  simp [breakDown, rebuild_eq, Site.release_inMemory _ _ h]

/-- The notes that a server leaves when it is shut down. -/
def farewell (s : Server) : List Event :=
  (if s.isRunning then [.pipeShutdown s.name] else [])
    ++ if s.state = .idle then [] else [.pipeStateReset s.name s.state]

/-- The server after a start. -/
def launched (s : Server) : Server :=
  { s with started := s.started + 1, task := some .starting }

theorem start_of_task_none {s : Server} (h : s.task = none) (site : Site) :
    s.start site = (s.launched, site.log [.pipeStarted s.name]) := by
  simp [start, isRunning, h, launched, Site.note_eq]

/-- The server after a shutdown. -/
def stopped (s : Server) : Server := { s with state := .idle, task := none }

theorem shutdown_eq (s : Server) (site : Site) :
    s.shutdown site = (s.stopped, site.log s.farewell) := by
  obtain ⟨name, handler, buffer, backoff, state, started, task⟩ := s
  cases task <;> cases state <;>
    simp [shutdown, reset, stopped, farewell, isRunning, Site.note_eq]

theorem call?_eq_some {s : Server} {c : Call} (h : s.call? = some c) :
    s.handler = c.handler ∧ s.task = some (.serving c.endpoint c.conn (.call c.bytes)) := by
  unfold call? at h
  split at h
  · rename_i e conn bytes ht
    cases h
    exact ⟨rfl, ht⟩
  · cases h

theorem call?_of_task {s : Server} {e : Endpoint} {conn : Conn} {bytes : List UInt8}
    (h : s.task = some (.serving e conn (.call bytes))) :
    s.call? = some ⟨s.handler, e, conn, bytes⟩ := by
  simp [call?, h]

/-- Whether a server is about to bind. -/
def isBinding (s : Server) : Prop := s.task = some .starting ∨ s.task = some (.waiting 0)

/-- Everything that a server can do without waiting, at a site in memory: the server and the site
after it. -/
inductive Step (s : Server) (site : Site) : Server → Site → Prop where
  | bound : s.isBinding → site.network.isBound s.name = false →
      Step s site (s.turnTo .listening (.listening ⟨site.network.nextListener, none⟩))
        ((site.withNetwork (site.network.openListener s.name)).log (s.announcement .listening))
  | refused : s.isBinding → site.network.isBound s.name = true →
      Step s site (s.turnTo .idle (.waiting s.backoff))
        (site.log (.pipeRebuild s.name s.name :: s.announcement .idle))
  | accepted (e : Endpoint) (conn : Conn) (n : Network) : s.task = some (.listening e) →
      site.network.accept e.listener = (.done conn, n) →
      Step s site (s.turnTo .connected (.serving e conn (.reply [])))
        ((site.withNetwork n).log (s.announcement .connected))
  | notAccepted (e : Endpoint) (error : NetworkError) (n : Network) :
      s.task = some (.listening e) → site.network.accept e.listener = (.failed error, n) →
      Step s site (s.turnTo .idle (.waiting s.backoff))
        ((site.withNetwork (n.dropListener e.listener)).log
          (.pipeRebuild s.name error.message :: s.announcement .idle))
  | heard (e : Endpoint) (conn after : Conn) (bytes : List UInt8) (n : Network) :
      s.task = some (.serving e conn (.reply [])) → bytes ≠ [] →
      conn.read s.buffer site.network = (.done bytes, after, n) →
      Step s site (s.turnTo s.state (.serving e after (.call bytes))) (site.withNetwork n)
  | answered (e : Endpoint) (conn : Conn) (bytes : List UInt8) :
      s.task = some (.serving e conn (.call bytes)) →
      Step s site
        (s.turnTo s.state (.serving e conn
          (.reply (Wire.encode (s.handler.run (Wire.decode bytes) site.host).1.text))))
        (site.withHost (s.handler.hostAfter (Wire.decode bytes) site.host))
  | parted (e : Endpoint) (conn after : Conn) (n : Network) :
      s.task = some (.serving e conn (.reply [])) →
      conn.read s.buffer site.network = (.done [], after, n) →
      Step s site (s.turnTo .listening (.listening e))
        ((site.withNetwork (after.drop n)).log
          (.pipeClientDisconnected s.name :: s.announcement .listening))
  | unheard (e : Endpoint) (conn after : Conn) (error : NetworkError) (n : Network) :
      s.task = some (.serving e conn (.reply [])) →
      conn.read s.buffer site.network = (.failed error, after, n) →
      Step s site (s.turnTo .idle (.waiting s.backoff))
        ((site.withNetwork ((after.drop n).dropListener e.listener)).log
          (.pipeRebuild s.name error.message :: s.announcement .idle))
  | told (e : Endpoint) (conn : Conn) (unsent : List UInt8) (count : Nat) (n : Network) :
      s.task = some (.serving e conn (.reply unsent)) → unsent ≠ [] →
      conn.write unsent site.network = (.done count, n) →
      Step s site (s.turnTo s.state (.serving e conn (.reply (unsent.drop count))))
        (site.withNetwork n)
  | cutOff (e : Endpoint) (conn : Conn) (unsent : List UInt8) (error : NetworkError) (n : Network) :
      s.task = some (.serving e conn (.reply unsent)) → unsent ≠ [] →
      conn.write unsent site.network = (.failed error, n) →
      Step s site (s.turnTo .idle (.waiting s.backoff))
        ((site.withNetwork ((conn.drop n).dropListener e.listener)).log
          (.pipeRebuild s.name error.message :: s.announcement .idle))

/-- The server holds no socket file. -/
def Socketless (s : Server) : Prop := ∀ t e, s.task = some t → t.endpoint? = some e → e.path = none

theorem step_of_establish {s s' : Server} {site site' : Site} (hdir : site.directory = none)
    (hb : s.isBinding) (h : s.establish site = (s', site')) : Step s site s' site' := by
  rw [establish, Site.bind_inMemory _ _ hdir] at h
  by_cases hbound : site.network.isBound s.name = true
  · simp only [hbound, if_true, rebuild_eq] at h
    cases h
    exact .refused hb hbound
  · simp only [hbound, goOn_eq] at h
    cases h
    exact .bound hb (by simpa using hbound)

theorem step_of_takeClient {s s' : Server} {site site' : Site} {e : Endpoint} (hpath : e.path = none)
    (ht : s.task = some (.listening e)) (h : s.takeClient e site = some (s', site')) :
    Step s site s' site' := by
  unfold takeClient at h
  split at h
  · cases h
  · rename_i conn n ha
    rw [goOn_eq] at h
    cases h
    exact .accepted e conn n ht ha
  · rename_i error n ha
    rw [breakDown_eq _ _ _ _ hpath] at h
    cases h
    exact .notAccepted e error n ht ha

theorem step_of_hear {s s' : Server} {site site' : Site} {e : Endpoint} {conn : Conn}
    (hpath : e.path = none) (ht : s.task = some (.serving e conn (.reply [])))
    (h : s.hear e conn site = some (s', site')) : Step s site s' site' := by
  rw [hear] at h
  split at h
  · cases h
  · rename_i after n hr
    simp only [partFrom, goOn_eq, Site.note_eq, Site.log_log] at h
    cases h
    exact .parted e conn after n ht hr
  · rename_i bytes after n hne hr
    cases h
    exact .heard e conn after bytes n ht hne hr
  · rename_i error after n hr
    rw [loseClient, breakDown_eq _ _ _ _ hpath] at h
    cases h
    exact .unheard e conn after error n ht hr

theorem step_of_tell {s s' : Server} {site site' : Site} {e : Endpoint} {conn : Conn}
    {unsent : List UInt8} (hpath : e.path = none)
    (ht : s.task = some (.serving e conn (.reply unsent))) (hne : unsent ≠ [])
    (h : s.tell e conn unsent site = some (s', site')) : Step s site s' site' := by
  unfold tell at h
  split at h
  · cases h
  · rename_i count n hw
    cases h
    exact .told e conn unsent count n ht hne hw
  · rename_i error n hw
    rw [loseClient, breakDown_eq _ _ _ _ hpath] at h
    cases h
    exact .cutOff e conn unsent error n ht hne hw

/-- A move is one of the steps. -/
theorem step_of_move {s s' : Server} {site site' : Site} (hdir : site.directory = none)
    (hs : s.Socketless) (h : s.move site = some (s', site')) : Step s site s' site' := by
  unfold move at h
  split at h
  · cases h
  · rename_i ht
    exact step_of_establish hdir (.inl ht) (Option.some.inj h)
  · rename_i ht
    exact step_of_establish hdir (.inr ht) (Option.some.inj h)
  · cases h
  · rename_i e ht
    exact step_of_takeClient (hs _ e ht rfl) ht h
  · rename_i e conn bytes ht
    rw [handle, Handler.reply_eq] at h
    cases h
    exact .answered e conn bytes ht
  · rename_i e conn ht
    exact step_of_hear (hs _ e ht rfl) ht h
  · rename_i e conn unsent hne ht
    exact step_of_tell (hs _ e ht rfl) ht (by simpa using hne) h

/-- A server that cannot move waits for an operator, for time to pass, or for a client. -/
theorem stalled_of_move {s : Server} {site : Site} (h : s.move site = none) :
    s.task = none ∨ (∃ time, s.task = some (.waiting (time + 1)))
      ∨ (∃ e n, s.task = some (.listening e) ∧ site.network.accept e.listener = (.pending, n))
      ∨ (∃ e conn after n, s.task = some (.serving e conn (.reply []))
          ∧ conn.read s.buffer site.network = (.pending, after, n))
      ∨ ∃ e conn unsent n, s.task = some (.serving e conn (.reply unsent)) ∧ unsent ≠ []
          ∧ conn.write unsent site.network = (.pending, n) := by
  unfold move at h
  split at h
  · exact .inl ‹_›
  · cases h
  · cases h
  · rename_i time ht
    exact .inr (.inl ⟨time, ht⟩)
  · rename_i e ht
    unfold takeClient at h
    split at h
    · exact .inr (.inr (.inl ⟨e, _, ht, ‹_›⟩))
    · cases h
    · cases h
  · cases h
  · rename_i e conn ht
    rw [hear] at h
    split at h
    · exact .inr (.inr (.inr (.inl ⟨e, conn, _, _, ht, ‹_›⟩)))
    · cases h
    · cases h
    · cases h
  · rename_i e conn unsent hne ht
    unfold tell at h
    split at h
    · exact .inr (.inr (.inr (.inr ⟨e, conn, unsent, _, ht, by simpa using hne, ‹_›⟩)))
    · cases h
    · cases h

/-- A server that cannot move waits for no answer. -/
theorem call?_of_stalled {s : Server} {site : Site} (h : s.move site = none) : s.call? = none := by
  rcases hc : s.call? with _ | c
  · rfl
  · obtain ⟨-, ht⟩ := call?_eq_some hc
    rw [move, ht] at h
    cases h

end Server

end KeyBridge
