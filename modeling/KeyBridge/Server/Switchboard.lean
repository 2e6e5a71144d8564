-- SUMMARY: Switchboards: the servers and clients of a site, and how they take turns.
import KeyBridge.Server.Basic

/-!
# Switchboards

A switchboard holds the servers of a site. Whoever acts on it, a client or an operator, acts at
once; then `settle` lets everything happen that needs no time: tasks that were abandoned let go of
what they hold, calls that were begun for them are carried out, clients go on writing what did not
fit, and servers move. Servers take turns in the order in which they were last started or began to
wait, and one that has its turn moves as long as it can.

Time passes in `advance` only.
-/

namespace KeyBridge

structure ServerId where
  index : Nat
deriving DecidableEq, Repr

/-- A task that was stopped, with its server and its number there. -/
structure Stray where
  server : ServerId
  number : Nat
  task : Task

structure Switchboard where
  site : Site
  servers : List Server
  /-- The order of turns. -/
  turns : List ServerId
  /-- Tasks that were stopped and have not let go of what they hold. -/
  abandoned : List Stray
  /-- Calls that were begun before the server was shut down and have not been carried out. -/
  unawaited : List Call
  /-- What clients have yet to write. -/
  unsent : List (LinkId × List UInt8)

namespace Switchboard

def create (site : Site) : Switchboard := ⟨site, [], [], [], [], []⟩

/-! ## Servers -/

def add (b : Switchboard) (s : Server) : ServerId × Switchboard :=
  let id : ServerId := ⟨b.servers.length⟩
  (id, { b with servers := b.servers ++ [s], turns := b.turns ++ [id] })

def server? (b : Switchboard) (id : ServerId) : Option Server := b.servers[id.index]?

def put (b : Switchboard) (id : ServerId) (s : Server) (site : Site) : Switchboard :=
  { b with servers := b.servers.set id.index s, site := site }

/-- Puts a server at the end of the order of turns. -/
def yield (b : Switchboard) (id : ServerId) : Switchboard :=
  { b with turns := b.turns.filter (· ≠ id) ++ [id] }

def start (b : Switchboard) (id : ServerId) : Switchboard :=
  match b.server? id with
  | none => b
  | some s =>
    let (after, site) := s.start b.site
    let b := b.put id after site
    if s.isRunning then b else b.yield id

/-- Shuts a server down. Nothing stops a call that was begun. -/
def shutdown (b : Switchboard) (id : ServerId) : Switchboard :=
  match b.server? id with
  | none => b
  | some s =>
    let (after, site) := s.shutdown b.site
    { b.put id after site with
      abandoned := b.abandoned ++ s.task.toList.map fun t => ⟨id, s.started, t⟩
      unawaited := b.unawaited ++ s.call?.toList }

/-! ## Clients -/

def connect (b : Switchboard) (channel : String) : Except EndpointError (LinkId × Switchboard) :=
  (b.site.connect channel).map fun r => (r.1, { b with site := r.2 })

/-- Puts off bytes that a client has to write, if there are any. -/
def putOff (b : Switchboard) (link : LinkId) (bytes : List UInt8) : Switchboard :=
  if bytes.isEmpty then b else { b with unsent := b.unsent ++ [(link, bytes)] }

/-- Writes bytes at a client's end. What does not fit is written as soon as there is room. With
nothing to write the end is not even looked at. -/
def send (b : Switchboard) (link : LinkId) (bytes : List UInt8) :
    Except NetworkError Unit × Switchboard :=
  if bytes.isEmpty then (.ok (), b)
  else
    match b.site.network.write link .client bytes with
    | (.failed error, _) => (.error error, b)
    | (.pending, _) => (.ok (), b.putOff link bytes)
    | (.done count, n) =>
      (.ok (), { b with site := { b.site with network := n } }.putOff link (bytes.drop count))

/-- Takes all bytes that are there for a client, and tells whether no more can follow. -/
def receive (b : Switchboard) (link : LinkId) : (List UInt8 × Bool) × Switchboard :=
  let (r, n) := b.site.network.drain link .client
  (r, { b with site := { b.site with network := n } })

def hangUp (b : Switchboard) (link : LinkId) : Switchboard :=
  { b with
    site := { b.site with network := b.site.network.dropLink link }
    unsent := b.unsent.filter fun u => u.1 ≠ link }

/-! ## Interference -/

/-- Makes the next accept at a name fail, if there is a listener. -/
def failAccept (b : Switchboard) (name : String) : Bool × Switchboard :=
  let (r, n) := b.site.network.failAccept name
  (r, { b with site := { b.site with network := n } })

/-- Hands the listener of a name a connection that breaks, if there is a listener. -/
def failConn (b : Switchboard) (name : String) (how : Breakage) : Bool × Switchboard :=
  let (r, n) := b.site.network.failConn name how
  (r, { b with site := { b.site with network := n } })

/-- Binds the endpoint of a channel from outside. -/
def occupy (b : Switchboard) (channel : String) : Except EndpointError Endpoint × Switchboard :=
  let (r, site) := b.site.bind channel
  (r, { b with site := site })

/-- Drops endpoints that were bound from outside. -/
def vacate (b : Switchboard) (endpoints : List Endpoint) : Switchboard :=
  { b with site := endpoints.foldl Site.release b.site }

/-! ## Settling -/

def releaseAbandoned (b : Switchboard) : Switchboard :=
  { b with site := b.abandoned.foldl (fun site t => t.task.release site) b.site, abandoned := [] }

def carryOutCalls (b : Switchboard) : Switchboard :=
  { b with site := b.unawaited.foldl (fun site c => c.carryOut site) b.site, unawaited := [] }

/-- The first client in a list that can write some more: the network after that, and what clients
have yet to write. A client whose end is closed gives up. -/
def flushFirst (n : Network) :
    List (LinkId × List UInt8) → Option (Network × List (LinkId × List UInt8))
  | [] => none
  | (link, bytes) :: rest =>
    match n.write link .client bytes with
    | (.failed _, _) => some (n, rest)
    | (.done count, after) =>
      some (after, if count < bytes.length then (link, bytes.drop count) :: rest else rest)
    | (.pending, _) => (flushFirst n rest).map fun r => (r.1, (link, bytes) :: r.2)

def flush (b : Switchboard) : Option Switchboard :=
  (flushFirst b.site.network b.unsent).map fun r =>
    { b with site := { b.site with network := r.1 }, unsent := r.2 }

/-- Lets a server move. One that begins to wait goes to the end of the order of turns. -/
def moveServer (b : Switchboard) (id : ServerId) : Option Switchboard :=
  match b.server? id with
  | none => none
  | some s =>
    (s.move b.site).map fun r =>
      let b := b.put id r.1 r.2
      if r.1.wait?.isSome then b.yield id else b

/-- Lets one thing happen that needs no time. -/
def stir (b : Switchboard) : Option Switchboard :=
  match b.flush with
  | some b => some b
  | none => b.turns.findSome? b.moveServer

/-- More than the number of things that can happen before time has to pass: every byte on its way
is written, read and answered at most once, everything that waits in a queue is taken once, and
every server binds once. Servers that do not wait between attempts to bind are cut short. -/
def budget (b : Switchboard) : Nat :=
  let n := b.site.network
  let sent := n.links.foldl (fun k l => k + l.fromClient.bytes.length) 0
  let queued := n.listeners.foldl (fun k l => l.queue.foldl (fun k i => k + i.weight) k) 0
  let unsent := b.unsent.foldl (fun k u => k + u.2.length + 1) 0
  let held := b.servers.foldl (fun k s => k + (s.task.map Task.weight).getD 0) 0
  6 * (sent + queued + unsent + held + b.servers.length + 1)

/-- Lets so many things happen, or all that need no time if there are fewer. -/
def stirUpTo : Nat → Switchboard → Switchboard
  | 0, b => b
  | fuel + 1, b =>
    match b.stir with
    | some b => stirUpTo fuel b
    | none => b

def settle (b : Switchboard) : Switchboard :=
  let b := b.releaseAbandoned.carryOutCalls
  stirUpTo b.budget b

/-! ## Time -/

def nextExpiry (b : Switchboard) : Option Nat := (b.servers.filterMap Server.wait?).min?

/-- Lets time pass in which nothing happens. -/
def elapse (b : Switchboard) (time : Nat) : Switchboard :=
  { b with servers := b.servers.map fun s => s.elapse time }

/-- Lets time pass, with everything that happens in the meantime. -/
def advance (b : Switchboard) (time : Nat) : Switchboard :=
  let b := b.settle
  match b.nextExpiry with
  | some wait =>
    if 0 < wait ∧ wait ≤ time then (b.elapse wait).advance (time - wait) else b.elapse time
  | none => b
termination_by time

end Switchboard

end KeyBridge
