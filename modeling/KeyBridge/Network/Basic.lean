-- SUMMARY: The network in memory: listeners under names, and connections.
import KeyBridge.Network.Pipe

/-!
# The network

A listener is bound under a name, one at a time. Clients that connect to the name, and failures
that are put in by hand, queue up at the listener. A connection is a pair of pipes; it lasts until
both ends have dropped it. A listener that is dropped hangs up on all who are still in its queue.

The network remembers every listener and every connection there ever was.
-/

namespace KeyBridge

/-! ## Connections -/

inductive Side where
  | client
  | host
deriving DecidableEq, Repr

def Side.other : Side → Side
  | .client => .host
  | .host => .client

/-- A connection: the pipe that each side writes to. -/
structure Link where
  fromClient : Pipe
  fromHost : Pipe
deriving DecidableEq, Repr

namespace Link

def fresh : Link := ⟨.fresh, .fresh⟩

def outgoing (l : Link) : Side → Pipe
  | .client => l.fromClient
  | .host => l.fromHost

def incoming (l : Link) (s : Side) : Pipe := l.outgoing s.other

def setOutgoing (l : Link) (s : Side) (p : Pipe) : Link :=
  match s with
  | .client => { l with fromClient := p }
  | .host => { l with fromHost := p }

/-- A side ends its outgoing direction. -/
def shutdown (l : Link) (s : Side) : Link := l.setOutgoing s (l.outgoing s).close

/-- A side drops its end. -/
def drop (l : Link) : Link := ⟨l.fromClient.close, l.fromHost.close⟩

end Link

structure LinkId where
  index : Nat
deriving DecidableEq, Repr

/-! ## Listeners -/

/-- How a connection breaks on its host's side. -/
inductive Breakage where
  /-- The first read fails. -/
  | reading
  /-- Reads give the bytes of a message; writing the reply fails. -/
  | writing (message : List UInt8)
deriving DecidableEq, Repr

/-- The host's end of a connection. -/
structure Conn where
  link : LinkId
  breakage : Option Breakage
deriving DecidableEq, Repr

/-- What waits in the queue of a listener. -/
inductive Incoming where
  | conn (conn : Conn)
  /-- A failure of the listener itself. -/
  | failure
deriving DecidableEq, Repr

/-- How much there is to do about what waits in a queue. -/
def Incoming.weight : Incoming → Nat
  | .conn ⟨_, some (.writing message)⟩ => message.length + 2
  | _ => 2

/-- A listener: its name, what waits in its queue, whether it still exists, and whether the network
still knows it under its name. -/
structure Listener where
  name : String
  queue : List Incoming
  live : Bool
  attached : Bool
deriving DecidableEq, Repr

structure ListenerId where
  index : Nat
deriving DecidableEq, Repr

/-- All listeners and connections there ever were, in order. -/
structure Network where
  listeners : List Listener
  links : List Link
deriving DecidableEq, Repr

namespace Network

def fresh : Network := ⟨[], []⟩

/-! ## Names -/

/-- Whether a listener is the live one of a name. -/
def isLiveAt (name : String) (l : Listener) : Bool := l.attached && l.name = name && l.live

def isBound (n : Network) (name : String) : Bool := n.listeners.any (isLiveAt name)

def bindCount (n : Network) (name : String) : Nat :=
  n.listeners.countP fun l => l.attached && l.name = name

def liveListener? (n : Network) (name : String) : Option ListenerId :=
  (n.listeners.findIdx? (isLiveAt name)).map fun i => ⟨i⟩

def nextListener (n : Network) : ListenerId := ⟨n.listeners.length⟩

/-- Makes a listener under a name, whoever else has it. -/
def openListener (n : Network) (name : String) : Network :=
  { n with listeners := n.listeners ++ [⟨name, [], true, true⟩] }

/-- Binds a listener to a name that no other live listener has. -/
def bind (n : Network) (name : String) : Except NetworkError (ListenerId × Network) :=
  if n.isBound name then .error (.nameInUse name) else .ok (n.nextListener, n.openListener name)

/-- The live listener of a name, or the reason why nobody can connect to it. -/
def reach (n : Network) (name : String) : Except NetworkError ListenerId :=
  match n.liveListener? name with
  | some listener => .ok listener
  | none => .error (if n.bindCount name = 0 then .notFound name else .refused name)

def enqueue (n : Network) (listener : ListenerId) (item : Incoming) : Network :=
  { n with
    listeners := n.listeners.modify listener.index fun l => { l with queue := l.queue ++ [item] } }

def newLink (n : Network) (l : Link) : LinkId × Network :=
  (⟨n.links.length⟩, { n with links := n.links ++ [l] })

def isLive (n : Network) (listener : ListenerId) : Bool :=
  (n.listeners[listener.index]?).any Listener.live

def connectTo (n : Network) (listener : ListenerId) : LinkId × Network :=
  let (link, n) := n.newLink .fresh
  (link, n.enqueue listener (.conn ⟨link, none⟩))

def connect (n : Network) (name : String) : Except NetworkError (LinkId × Network) :=
  (n.reach name).map n.connectTo

/-- Puts a failure into the queue of a name's listener, and tells whether there is one. -/
def failAccept (n : Network) (name : String) : Bool × Network :=
  match n.reach name with
  | .ok listener => (true, n.enqueue listener .failure)
  | .error _ => (false, n)

/-- Puts a connection that breaks into the queue of a name's listener, and tells whether there is
one. The connection has no client. -/
def failConn (n : Network) (name : String) (b : Breakage) : Bool × Network :=
  match n.reach name with
  | .ok listener =>
    let (link, n) := n.newLink Link.fresh.drop
    (true, n.enqueue listener (.conn ⟨link, some b⟩))
  | .error _ => (false, n)

/-- Makes the network forget all names; what is connected or queued stays as it is. -/
def forgetNames (n : Network) : Network :=
  { n with listeners := n.listeners.map fun l => { l with attached := false } }

/-! ## The ends of connections -/

def link (n : Network) (id : LinkId) : Link := n.links.getD id.index Link.fresh.drop

def setLink (n : Network) (id : LinkId) (l : Link) : Network :=
  { n with links := n.links.set id.index l }

/-- Reads at most `max` bytes at one end of a connection. -/
def read (n : Network) (id : LinkId) (s : Side) (max : Nat) : Progress (List UInt8) × Network :=
  let l := n.link id
  let (r, p) := (l.incoming s).read max
  (r, n.setLink id (l.setOutgoing s.other p))

/-- Writes bytes at one end of a connection, as many as fit. -/
def write (n : Network) (id : LinkId) (s : Side) (bytes : List UInt8) : Progress Nat × Network :=
  let l := n.link id
  let (r, p) := (l.outgoing s).write bytes
  (r, n.setLink id (l.setOutgoing s p))

/-- Takes all bytes that are there for one end of a connection, and tells whether no more can
follow. -/
def drain (n : Network) (id : LinkId) (s : Side) : (List UInt8 × Bool) × Network :=
  let l := n.link id
  let p := l.incoming s
  ((p.bytes, p.closed), n.setLink id (l.setOutgoing s.other { p with bytes := [] }))

/-- Ends the outgoing direction of one end of a connection. -/
def shutdown (n : Network) (id : LinkId) (s : Side) : Network :=
  n.setLink id ((n.link id).shutdown s)

def dropLink (n : Network) (id : LinkId) : Network := n.setLink id (n.link id).drop

/-! ## Listeners -/

def listener? (n : Network) (id : ListenerId) : Option Listener := n.listeners[id.index]?

/-- Takes the first item from the queue of a listener. -/
def accept (n : Network) (id : ListenerId) : Progress Conn × Network :=
  match n.listener? id with
  | none => (.failed .brokenPipe, n)
  | some l =>
    match l.queue with
    | [] => (if l.attached then .pending else .failed .brokenPipe, n)
    | item :: rest =>
      let n := { n with listeners := n.listeners.set id.index { l with queue := rest } }
      match item with
      | .conn c => (.done c, n)
      | .failure => (.failed .injected, n)

/-- Hangs up on what waited in a queue. -/
def hangUp (n : Network) : Incoming → Network
  | .conn c => n.dropLink c.link
  | .failure => n

/-- Drops a listener and all that waits in its queue. -/
def dropListener (n : Network) (id : ListenerId) : Network :=
  match n.listener? id with
  | none => n
  | some l =>
    let n := { n with listeners := n.listeners.set id.index { l with queue := [], live := false } }
    l.queue.foldl hangUp n

/-! ## Descriptions -/

def names (n : Network) : List String :=
  ((n.listeners.filter Listener.attached).map Listener.name).eraseDups

end Network

end KeyBridge
