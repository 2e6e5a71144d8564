-- SUMMARY: Sites: the network, the socket files and the host that servers share.
import KeyBridge.Callback.Host
import KeyBridge.Network.Conn
import KeyBridge.Socket.Directory

/-!
# Sites

Servers live at a site. Its endpoints are either names of the network, or socket files in a
directory that lead to listeners of the network. Its host answers messages.
-/

namespace KeyBridge

/-! ## Sites -/

/-- Where servers live. -/
structure Site where
  network : Network
  files : Files
  /-- The directory of socket files; without one, endpoints are names of the network. -/
  directory : Option String
  host : Host

/-- A bound listener, and the path of its socket if it has one. -/
structure Endpoint where
  listener : ListenerId
  path : Option String
deriving DecidableEq, Repr

inductive EndpointError where
  | network (error : NetworkError)
  | socket (error : SocketError)
deriving DecidableEq, Repr

namespace EndpointError

def kind : EndpointError → String
  | .network e => e.kind
  | .socket e => e.kind

def message : EndpointError → String
  | .network e => e.message
  | .socket e => e.message

end EndpointError

namespace Site

def inMemory (host : Host) : Site := ⟨.fresh, .empty, none, host⟩

def withSockets (host : Host) (files : Files) (directory : String) : Site :=
  ⟨.fresh, files, some directory, host⟩

def note (s : Site) (e : Event) : Site := { s with host := s.host.note e }

/-! ## Endpoints -/

def bindSocket (s : Site) (directory channel : String) : Except EndpointError Endpoint × Site :=
  let listener := s.network.nextListener
  match s.files.bindSocket directory channel listener with
  | (.error e, f) => (.error (.socket e), { s with files := f })
  | (.ok path, f) =>
    (.ok ⟨listener, some path⟩,
      { s with files := f, network := s.network.openListener path }.note (.socketBound path))

def bind (s : Site) (channel : String) : Except EndpointError Endpoint × Site :=
  match s.directory with
  | some directory => s.bindSocket directory channel
  | none =>
    match s.network.bind channel with
    | .error e => (.error (.network e), s)
    | .ok (listener, n) => (.ok ⟨listener, none⟩, { s with network := n })

/-- Removes the socket of an endpoint that is dropped. -/
def releasePath (s : Site) : Option String → Site
  | none => s
  | some path =>
    match s.files.releaseSocket path with
    | (some e, f) => { s with files := f }.note e
    | (none, f) => { s with files := f }

def release (s : Site) (e : Endpoint) : Site :=
  { s with network := s.network.dropListener e.listener }.releasePath e.path

def connectSocket (s : Site) (path : String) : Except EndpointError (LinkId × Site) :=
  match s.files.listener path with
  | .error e => .error (.socket (.files e))
  | .ok listener =>
    if s.network.isLive listener then
      let (link, n) := s.network.connectTo listener
      .ok (link, { s with network := n })
    else .error (.socket (.files .refused))

def connect (s : Site) (channel : String) : Except EndpointError (LinkId × Site) :=
  match s.directory with
  | some directory => s.connectSocket (Path.socket directory channel)
  | none =>
    match s.network.connect channel with
    | .error e => .error (.network e)
    | .ok (link, n) => .ok (link, { s with network := n })

/-- Sends bytes to a channel over a connection of their own, and gives what comes out at an
endpoint. -/
def loopBack (s : Site) (e : Endpoint) (channel : String) (bytes : List UInt8) :
    Except EndpointError (Progress (List UInt8) × Site) :=
  (s.connect channel).map fun (link, s) =>
    match (s.network.write link .client bytes).2.accept e.listener with
    | (.done conn, n) =>
      let (r, conn, n) := conn.read Pipe.capacity n
      (r, { s with network := conn.drop n })
    | (.pending, n) => (.pending, { s with network := n })
    | (.failed error, n) => (.failed error, { s with network := n })

/-- Whether a channel has an endpoint: a live listener, or a file in the place of its socket. -/
def isBound (s : Site) (channel : String) : Bool :=
  match s.directory with
  | some directory => (s.files.reach (Path.socket directory channel)).isOk
  | none => s.network.isBound channel

end Site

end KeyBridge
