-- SUMMARY: Servers: what they hold and how they move.
import KeyBridge.Server.State
import KeyBridge.Site
import KeyBridge.Wire.Codec

/-!
# Servers

A server binds an endpoint and serves its clients one at a time: it reads a message, has its
handler answer it, writes the reply and reads again. When the client hangs up it takes the next
one. Any failure costs the server its endpoint; it waits and binds a new one.

A running server has a *task*. `move` takes the next thing that can happen without waiting. Moves of
servers and what operators and clients do follow one another in any order; only calls of handlers go
on beside them. So a server may be stopped between any two moves, also while a call of its handler is
on its way, and a task that was stopped may still be there when the server is started again.
-/

namespace KeyBridge

/-! ## Handlers -/

inductive Handler where
  | callback (callback : Callback)
  /-- The callbacks of a registry, by their headers. -/
  | registry (id : RegistryId)

def Handler.run (h : Handler) (message : String) (host : Host) : Answer × Host :=
  match h with
  | .callback c => host.invoke c message
  | .registry id => host.dispatch id message

/-- Has a handler answer a message; the reply is empty if the handler does not come back. -/
def Handler.reply (h : Handler) (message : String) (host : Host) : String × Host :=
  match h.run message host with
  | (.reply text, host) => (text, host)
  | (_, host) => ("", host.note .pipeHandlerFailed)

/-- A call of a handler for the bytes that were read at the host's end of a connection, which was
taken at an endpoint. -/
structure Call where
  handler : Handler
  endpoint : Endpoint
  conn : Conn
  bytes : List UInt8

/-- Carries out a call that nobody waits for: the answer goes nowhere. -/
def Call.carryOut (c : Call) (site : Site) : Site :=
  { site with host := (c.handler.run (Wire.decode c.bytes) site.host).2 }

/-! ## Servers -/

/-- What a server does for its client. -/
inductive Errand where
  /-- It handed these bytes over to the handler, and waits for the answer. -/
  | call (bytes : List UInt8)
  /-- It writes what is left of a reply; with nothing left it reads. -/
  | reply (unsent : List UInt8)
deriving DecidableEq, Repr

/-- The stage of a running server. -/
inductive Task where
  /-- It is about to bind. -/
  | starting
  /-- It binds again after some time. -/
  | waiting (time : Nat)
  /-- It has an endpoint and no client. -/
  | listening (endpoint : Endpoint)
  | serving (endpoint : Endpoint) (conn : Conn) (errand : Errand)
deriving DecidableEq, Repr

structure Server where
  name : String
  handler : Handler
  buffer : Nat
  /-- How long the server waits after a failure. -/
  backoff : Nat
  /-- The state that was published last. -/
  state : ServerState
  /-- How often the server was started. Tasks are numbered, the first one by 1. -/
  started : Nat
  task : Option Task

namespace Server

def minBuffer : Nat := 2

/-- A server that is not running. It is assumed that memory for the buffer can be had. -/
def create (name : String) (handler : Handler) (buffer backoff : Nat) : Server :=
  ⟨name, handler, max buffer minBuffer, backoff, .idle, 0, none⟩

def isRunning (s : Server) : Bool := s.task.isSome

/-- The call whose answer a server waits for. -/
def call? (s : Server) : Option Call :=
  match s.task with
  | some (.serving e conn (.call bytes)) => some ⟨s.handler, e, conn, bytes⟩
  | _ => none

def shown (s : Server) : String :=
  shownRecord "PipeServer" [("name", Text.shown s.name), ("state", s.state.name)]

/-! ## States -/

/-- Whether a task was stopped. The last one that was started is the only one that may not be. -/
def isCancelled (s : Server) (number : Nat) : Bool := !s.isRunning || s.started != number

/-- A task publishes a state. Nothing happens if the task was stopped or the state is the current
one. The note is made together with the change. -/
def publish (s : Server) (number : Nat) (next : ServerState) (site : Site) : Server × Site :=
  if s.isCancelled number ∨ s.state = next then (s, site)
  else ({ s with state := next }, site.note (.pipeState s.name s.state next))

def goOn (s : Server) (next : ServerState) (task : Task) (site : Site) : Server × Site :=
  { s with task := some task }.publish s.started next site

def rebuild (s : Server) (error : String) (site : Site) : Server × Site :=
  s.goOn .idle (.waiting s.backoff) (site.note (.pipeRebuild s.name error))

def breakDown (s : Server) (e : Endpoint) (error : NetworkError) (site : Site) : Server × Site :=
  s.rebuild error.message (site.release e)

/-! ## Moves -/

def establish (s : Server) (site : Site) : Server × Site :=
  match site.bind s.name with
  | (.ok e, site) => s.goOn .listening (.listening e) site
  | (.error e, site) => s.rebuild e.message site

def takeClient (s : Server) (e : Endpoint) (site : Site) : Option (Server × Site) :=
  match site.network.accept e.listener with
  | (.pending, _) => none
  | (.done conn, n) =>
    some (s.goOn .connected (.serving e conn (.reply [])) { site with network := n })
  | (.failed error, n) => some (s.breakDown e error { site with network := n })

/-- Goes on with an errand, in the state that the server is in. -/
def attend (s : Server) (e : Endpoint) (conn : Conn) (errand : Errand) : Server :=
  { s with task := some (.serving e conn errand) }

/-- The handler answers a message, which leaves a reply to write. -/
def handle (s : Server) (e : Endpoint) (conn : Conn) (bytes : List UInt8) (site : Site) :
    Server × Site :=
  let (reply, host) := s.handler.reply (Wire.decode bytes) site.host
  (s.attend e conn (.reply (Wire.encode reply)), { site with host := host })

def partFrom (s : Server) (e : Endpoint) (conn : Conn) (site : Site) : Server × Site :=
  let site := { site with network := conn.drop site.network }.note (.pipeClientDisconnected s.name)
  s.goOn .listening (.listening e) site

def loseClient (s : Server) (e : Endpoint) (conn : Conn) (error : NetworkError) (site : Site) :
    Server × Site :=
  s.breakDown e error { site with network := conn.drop site.network }

/-- Reads a message and hands it over to the handler. -/
def hear (s : Server) (e : Endpoint) (conn : Conn) (site : Site) : Option (Server × Site) :=
  match conn.read s.buffer site.network with
  | (.pending, _, _) => none
  | (.done [], conn, n) => some (s.partFrom e conn { site with network := n })
  | (.done bytes, conn, n) => some (s.attend e conn (.call bytes), { site with network := n })
  | (.failed error, conn, n) => some (s.loseClient e conn error { site with network := n })

/-- Writes what is left of a reply, as much as fits. -/
def tell (s : Server) (e : Endpoint) (conn : Conn) (unsent : List UInt8) (site : Site) :
    Option (Server × Site) :=
  match conn.write unsent site.network with
  | (.pending, _) => none
  | (.done count, n) =>
    some (s.attend e conn (.reply (unsent.drop count)), { site with network := n })
  | (.failed error, n) => some (s.loseClient e conn error { site with network := n })

/-- The next thing that a server does without waiting, if there is any. -/
def move (s : Server) (site : Site) : Option (Server × Site) :=
  match s.task with
  | none => none
  | some .starting => some (s.establish site)
  | some (.waiting 0) => some (s.establish site)
  | some (.waiting (_ + 1)) => none
  | some (.listening e) => s.takeClient e site
  | some (.serving e conn (.call bytes)) => some (s.handle e conn bytes site)
  | some (.serving e conn (.reply [])) => s.hear e conn site
  | some (.serving e conn (.reply unsent)) => s.tell e conn unsent site

/-! ## Time -/

def wait? (s : Server) : Option Nat :=
  match s.task with
  | some (.waiting time) => some time
  | _ => none

def elapse (s : Server) (time : Nat) : Server :=
  match s.task with
  | some (.waiting rest) => { s with task := some (.waiting (rest - time)) }
  | _ => s

/-! ## Starting and stopping -/

def start (s : Server) (site : Site) : Server × Site :=
  if s.isRunning then (s, site)
  else ({ s with started := s.started + 1, task := some .starting },
    site.note (.pipeStarted s.name))

def reset (s : Server) (site : Site) : Server × Site :=
  if s.state = .idle then (s, site)
  else ({ s with state := .idle }, site.note (.pipeStateReset s.name s.state))

/-- Stops a server. Its task makes no further move; what the task holds is yet to be released, and a
call that it waits for is yet to be carried out. -/
def shutdown (s : Server) (site : Site) : Server × Site :=
  let site := if s.isRunning then site.note (.pipeShutdown s.name) else site
  { s with task := none }.reset site

end Server

/-- How much there is to do about what a task holds, apart from bytes on their way. -/
def Task.weight : Task → Nat
  | .serving _ ⟨_, some (.writing message)⟩ _ => message.length + 2
  | _ => 2

def Task.release (t : Task) (site : Site) : Site :=
  match t with
  | .starting => site
  | .waiting _ => site
  | .listening e => site.release e
  | .serving e conn _ => { site with network := conn.drop site.network }.release e

end KeyBridge
