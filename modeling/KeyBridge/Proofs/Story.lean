-- SUMMARY: What is asked, answered and received on connections in the course of a run.
import KeyBridge.Proofs.Changes

/-!
# Stories

The story of a run is the list of what happens on connections: requests that clients hand over,
messages that handlers answer, and bytes that clients receive. The host of a run is what the runs of
handlers in its story make of it, with notes and registrations in between (`lives_run`).
-/

namespace KeyBridge

/-! ## Incidents -/

/-- Something that happens on a connection. -/
inductive Incident where
  /-- The connection was made to break; it has no client. -/
  | broke (link : LinkId) (how : Breakage)
  | asked (link : LinkId) (bytes : List UInt8)
  /-- A handler was run on the bytes that were read at the host's end. -/
  | answered (conn : Conn) (bytes : List UInt8) (answer : Answer)
  | received (link : LinkId) (bytes : List UInt8)

namespace Incident

/-- The connection on which it happens. -/
def link : Incident → LinkId
  | .broke l _ => l
  | .asked l _ => l
  | .answered c _ _ => c.link
  | .received l _ => l

/-- What happens on one connection. -/
def on (l : LinkId) (h : List Incident) : List Incident := h.filter fun i => i.link = l

@[simp] theorem on_nil (l : LinkId) : on l [] = [] := rfl

@[simp] theorem on_append (l : LinkId) (h more : List Incident) :
    on l (h ++ more) = on l h ++ on l more := List.filter_append ..

theorem on_singleton (l : LinkId) (i : Incident) :
    on l [i] = if i.link = l then [i] else [] := by
  simp only [on, List.filter_cons, List.filter_nil, decide_eq_true_eq]

@[simp] def breakage? : Incident → Option Breakage
  | .broke _ how => some how
  | _ => none

@[simp] def request? : Incident → Option (List UInt8)
  | .asked _ bytes => some bytes
  | _ => none

@[simp] def call? : Incident → Option (List UInt8 × Answer)
  | .answered _ bytes answer => some (bytes, answer)
  | _ => none

@[simp] def receipt : Incident → List UInt8
  | .received _ bytes => bytes
  | _ => []

/-- How the connection was made to break. -/
def breaks (h : List Incident) : List Breakage := h.filterMap breakage?

/-- The requests of the client, in order. -/
def requests (h : List Incident) : List (List UInt8) := h.filterMap request?

/-- The runs of the handler, in order: the bytes that were read and what came of the run. -/
def calls (h : List Incident) : List (List UInt8 × Answer) := h.filterMap call?

/-- The bytes that the client received. -/
def receipts (h : List Incident) : List UInt8 := h.flatMap receipt

/-- The bytes of the replies to some calls. -/
def replies (calls : List (List UInt8 × Answer)) : List UInt8 :=
  calls.flatMap fun c => Wire.encode c.2.text

section

variable (h more : List Incident) (i : Incident)

@[simp] theorem breaks_append : breaks (h ++ more) = breaks h ++ breaks more :=
  List.filterMap_append

@[simp] theorem breaks_singleton : breaks [i] = i.breakage?.toList := by
  cases i <;> rfl

@[simp] theorem requests_append : requests (h ++ more) = requests h ++ requests more :=
  List.filterMap_append

@[simp] theorem requests_singleton : requests [i] = i.request?.toList := by
  cases i <;> rfl

@[simp] theorem calls_append : calls (h ++ more) = calls h ++ calls more :=
  List.filterMap_append

@[simp] theorem calls_singleton : calls [i] = i.call?.toList := by
  cases i <;> rfl

@[simp] theorem receipts_append : receipts (h ++ more) = receipts h ++ receipts more :=
  List.flatMap_append

@[simp] theorem receipts_singleton : receipts [i] = i.receipt := by
  simp [receipts]

@[simp] theorem replies_nil : replies [] = [] := rfl

@[simp] theorem replies_append (c d : List (List UInt8 × Answer)) :
    replies (c ++ d) = replies c ++ replies d := List.flatMap_append

@[simp] theorem replies_singleton (c : List UInt8 × Answer) :
    replies [c] = Wire.encode c.2.text := by simp [replies]

end

end Incident

/-! ## Stories -/

/-- What happens when a call is carried out. -/
def Call.incident (c : Call) (host : Host) : Incident :=
  .answered c.conn c.bytes (c.handler.run (Wire.decode c.bytes) host).1

@[simp] theorem Call.link_incident (c : Call) (host : Host) :
    (c.incident host).link = c.conn.link := rfl

namespace Switchboard

/-- The call that is carried out in an act, if there is one. -/
def carriedOut (b : Switchboard) : Act → Option Call
  | .move id => (b.server? id).bind Server.call?
  | .carryOut index => b.unawaited[index]?
  | _ => none

/-- What happens on connections in an act. -/
def observe (b : Switchboard) : Act → List Incident
  | .send link bytes =>
    if bytes ≠ [] ∧ (b.send link bytes).1.isOk then [.asked link bytes] else []
  | .receive link => [.received link (b.receive link).1.1]
  | .failConn name how =>
    if (b.failConn name how).1 then [.broke ⟨b.site.network.links.length⟩ how] else []
  | a => (b.carriedOut a).toList.map fun c => c.incident b.site.host

/-- What happens on connections in a run. -/
def story (b : Switchboard) : List Act → List Incident
  | [] => []
  | a :: acts => b.observe a ++ story (b.act a) acts

/-- What acts may be done, given the switchboard and the story so far. -/
abbrev Rule : Type := Switchboard → List Incident → Act → Prop

/-- Every act of a run obeys a rule. -/
def Obeys (rule : Rule) (past : List Incident) (b : Switchboard) : List Act → Prop
  | [] => True
  | a :: acts => rule b past a ∧ Obeys rule (past ++ b.observe a) (b.act a) acts

/-- What holds at the beginning and is kept by every act that obeys a rule holds at the end. -/
theorem Obeys.keeps {rule : Rule} {Inv : Switchboard → List Incident → Prop}
    (hact : ∀ b past a, Inv b past → rule b past a → Inv (b.act a) (past ++ b.observe a))
    {b : Switchboard} {past : List Incident} {acts : List Act} (h : Inv b past)
    (ho : Obeys rule past b acts) : Inv (b.run acts) (past ++ b.story acts) := by
  induction acts generalizing b past with
  | nil => simpa [story] using h
  | cons a acts ih =>
    have hrest := ih (hact b past a h ho.1) ho.2
    simpa [story] using hrest

theorem Obeys.and {rule rule' : Rule} {b : Switchboard} {past : List Incident} {acts : List Act}
    (ho : Obeys rule past b acts) (ho' : Obeys rule' past b acts) :
    Obeys (fun b past a => rule b past a ∧ rule' b past a) past b acts := by
  induction acts generalizing b past with
  | nil => trivial
  | cons a acts ih => exact ⟨⟨ho.1, ho'.1⟩, ih ho.2 ho'.2⟩

end Switchboard

/-! ## Calls -/

/-- A move of a server that waits for an answer is the answer; any other move only makes notes. -/
theorem Server.Step.call?_cases {s s' : Server} {site site' : Site} (h : s.Step site s' site') :
    (s.call? = none ∧ ∃ events, site'.host = (site.log events).host)
      ∨ ∃ c, s.call? = some c ∧ s' = s.turnTo s.state (.serving c.endpoint c.conn
              (.reply (Wire.encode (c.handler.run (Wire.decode c.bytes) site.host).1.text)))
          ∧ site' = site.withHost (c.handler.hostAfter (Wire.decode c.bytes) site.host) := by
  cases h with
  | bound hb => rcases hb with hb | hb <;> exact .inl ⟨by simp [call?, hb], _, rfl⟩
  | refused hb => rcases hb with hb | hb <;> exact .inl ⟨by simp [call?, hb], _, rfl⟩
  | answered e conn bytes ht =>
    exact .inr ⟨⟨s.handler, e, conn, bytes⟩, call?_of_task ht, rfl, rfl⟩
  | heard e conn after bytes n ht =>
    exact .inl ⟨by simp [call?, ht], [], (congrArg Site.host (Site.log_nil site)).symm⟩
  | told e conn unsent count n ht =>
    exact .inl ⟨by simp [call?, ht], [], (congrArg Site.host (Site.log_nil site)).symm⟩
  | _ => exact .inl ⟨by simp [call?, *], _, rfl⟩

/-! ## The host of a run -/

/-- What may become of a host in the course of a story. Notes are made and callbacks registered at
any time; a handler is run for each message that is answered, with the answer of the story. -/
inductive Lives (host : Host) : List Incident → Host → Prop where
  | begin : Lives host [] host
  | noted {past : List Incident} {h : Host} (e : Event) : Lives host past h →
      Lives host past (h.note e)
  | registered {past : List Incident} {h : Host} (into : RegistryId) (header : String)
      (callback : Callback) : Lives host past h →
      Lives host past (h.register into header callback).2
  | passed {past : List Incident} {h : Host} (i : Incident) : i.call? = none → Lives host past h →
      Lives host (past ++ [i]) h
  | answered {past : List Incident} {h : Host} (c : Call) : Lives host past h →
      Lives host (past ++ [c.incident h]) (c.handler.run (Wire.decode c.bytes) h).2

theorem Lives.log {site : Site} {host : Host} {past : List Incident}
    (h : Lives host past site.host) (events : List Event) :
    Lives host past (site.log events).host := by
  induction events generalizing site with
  | nil => rwa [Site.log_nil]
  | cons e events ih =>
    have hnoted : Lives host past (site.log [e]).host := h.noted e
    simpa using ih hnoted

theorem Lives.trans {host middle after : Host} {past more : List Incident}
    (h : Lives host past middle) (h' : Lives middle more after) :
    Lives host (past ++ more) after := by
  induction h' with
  | begin => simpa using h
  | noted e _ ih => exact ih.noted e
  | registered into header callback _ ih => exact ih.registered into header callback
  | passed i hi _ ih => exact List.append_assoc .. ▸ ih.passed i hi
  | answered c _ ih => exact List.append_assoc .. ▸ ih.answered c

theorem Lives.of_silent {host after : Host} {past : List Incident} (h : Lives host [] after)
    (hpast : ∀ i ∈ past, i.call? = none) : Lives host past after := by
  induction past using List.reverseRecOn with
  | nil => exact h
  | append_singleton past i ih =>
    obtain ⟨hrest, hi⟩ := List.forall_mem_append.1 hpast
    exact (ih hrest).passed i (hi i List.mem_cons_self)

theorem Lives.handled {host after : Host} {past : List Incident} (h : Lives host past after)
    (c : Call) : Lives host (past ++ [c.incident after])
      (c.handler.hostAfter (Wire.decode c.bytes) after) := by
  rcases c.handler.hostAfter_eq (Wire.decode c.bytes) after with heq | heq <;> rw [heq]
  · exact h.answered c
  · exact (h.answered c).noted .pipeHandlerFailed

namespace Switchboard

variable {b b' : Switchboard} {a : Act}

theorem carriedOut_move {id : ServerId} {s : Server} (hs : b.server? id = some s) :
    b.carriedOut (.move id) = s.call? := by
  rw [carriedOut, hs, Option.bind_some]

/-- A server that cannot move carries out no call. -/
theorem carriedOut_of_stalled {id : ServerId} (hm : b.moveServer id = none) :
    b.carriedOut (.move id) = none := by
  rcases hs : b.server? id with _ | s
  · rw [carriedOut, hs, Option.bind_none]
  · rw [carriedOut_move hs]
    exact Server.call?_of_stalled (by simpa [moveServer, hs] using hm)

/-- Messages are answered only by calls that are carried out. -/
theorem call?_observe (h : b.carriedOut a = none) {i : Incident} (hi : i ∈ b.observe a) :
    i.call? = none := by
  cases a with
  | send link bytes =>
    rw [observe] at hi
    split at hi
    · rw [List.mem_singleton.1 hi]
      rfl
    · cases hi
  | receive link =>
    rw [List.mem_singleton.1 hi]
    rfl
  | failConn name how =>
    rw [observe] at hi
    split at hi
    · rw [List.mem_singleton.1 hi]
      rfl
    · cases hi
  | _ => simp [observe, h] at hi

/-- An act in which no call is carried out runs no handler. -/
theorem Change.lives (h : Change b a b') (hb : b.Tidy) (hmove : ∀ id, a ≠ .move id)
    (hcarry : ∀ index, a ≠ .carryOut index) : Lives b.site.host [] b'.site.host := by
  cases h with
  | start id s => exact Lives.begin.log [.pipeStarted s.name]
  | shutdown id s => exact Lives.begin.log s.farewell
  | register into header callback => exact Lives.begin.registered into header callback
  | send link bytes =>
    rw [site_putOff]
    exact .begin
  | move id => exact absurd rfl (hmove id)
  | letGo index t ht =>
    obtain ⟨n, hrelease, -⟩ := release_eq b.site (hb.abandoned t (List.mem_of_getElem? ht))
    simp only [hrelease]
    exact .begin
  | carryOut index => exact absurd rfl (hcarry index)
  | _ => exact .begin

theorem lives_act (hb : b.Tidy) (a : Act) : Lives b.site.host (b.observe a) (b.act a).site.host := by
  have hchange := change_act hb a
  cases a with
  | move id =>
    rcases hm : b.moveServer id with _ | b'
    · simpa [observe, carriedOut_of_stalled hm, act, hm] using Lives.begin
    · obtain ⟨s, s', site', hs, hstep, rfl, -⟩ := hb.step_of_moveServer hm
      simp only [observe, carriedOut, hs, Option.bind_some, act, hm, Option.getD_some]
      rcases hstep.call?_cases with ⟨hnone, events, hhost⟩ | ⟨c, hc, -, hsite⟩
      · rw [hnone, hhost]
        exact Lives.begin.log events
      · rw [hc, hsite]
        exact Lives.begin.handled c
  | carryOut index =>
    rw [act, carryOutAt]
    rcases hc : b.unawaited[index]? with _ | c
    · simpa [observe, carriedOut, hc] using Lives.begin
    · simp only [observe, carriedOut, hc]
      exact Lives.begin.answered c
  | _ =>
    exact (hchange.lives hb (by simp) (by simp)).of_silent fun i hi => call?_observe rfl hi

/-- The host of a run is what the runs of handlers in its story make of it, each on the host as it
then is, with notes and registrations in between. -/
theorem lives_run (hb : b.Tidy) (acts : List Act) :
    Lives b.site.host (b.story acts) (b.run acts).site.host := by
  induction acts generalizing b with
  | nil => exact .begin
  | cons a acts ih => exact (lives_act hb a).trans (ih (hb.act a))

end Switchboard

end KeyBridge
