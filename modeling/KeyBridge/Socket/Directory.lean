-- SUMMARY: The directory of sockets: the checks before a socket is bound, and its removal.
import KeyBridge.Event
import KeyBridge.Socket.Files

/-!
# Socket directories

Sockets are bound in a directory that nobody else may use. The directory is made if it is not
there. What stands in the place of a new socket is removed only if it is a socket. A listener that
is dropped removes what is at its path.
-/

namespace KeyBridge

inductive SocketError where
  /-- Something else is in the place of the directory. -/
  | noDirectory (path : String)
  /-- Others have permissions on the directory. -/
  | accessible (path : String) (mode : Nat)
  /-- Something that is no socket is in the place of the socket. -/
  | noSocket (path : String)
  | files (error : FileError)
deriving DecidableEq, Repr

def permissions (mode : Nat) : Nat := mode % 0o1000

/-- The permissions of a mode in octal digits. -/
def shownMode (mode : Nat) : String := String.ofList (Nat.toDigits 8 (permissions mode))

def FileEntry.shown : FileEntry → String
  | .directory mode => "dir " ++ shownMode mode
  | .file => "file"
  | .link _ => "symlink"
  | .socket _ => "socket"

namespace SocketError

def kind : SocketError → String
  | .noDirectory _ => "AlreadyExists"
  | .accessible .. => "PermissionDenied"
  | .noSocket _ => "AlreadyExists"
  | .files e => e.kind

def message : SocketError → String
  | .noDirectory path => "socket dir '" ++ path ++ "' is not a directory"
  | .accessible path mode =>
    "socket dir '" ++ path ++ "' is accessible to other users (mode " ++ shownMode mode ++ ")"
  | .noSocket path => "refusing to remove non-socket at '" ++ path ++ "'"
  | .files e => e.message

end SocketError

namespace Files

/-! ## Checks -/

def privateMode : Nat := 0o700

/-- The permissions of a directory on the way to a private one. -/
def sharedMode : Nat := 0o755

/-- Makes a private directory and all directories on the way to it. What was made before a failure
stays. -/
def makePrivateDirectory (f : Files) (path : String) : Except FileError Unit × Files :=
  match f.makeDirectories (Path.components path) sharedMode with
  | (.error e, f) => (.error e, f)
  | (.ok (), f) =>
    match f.setMode (Path.components path) privateMode with
    | .error e => (.error e, f)
    | .ok f => (.ok (), f)

/-- Makes sure that there is a directory that its owner alone may use. The empty path is that of no
directory. -/
def ensurePrivate (f : Files) (path : String) : Except SocketError Unit × Files :=
  if path.isEmpty then (.error (.files .notFound), f)
  else
  match f.look path with
  | .error .notFound =>
    let (r, f) := f.makePrivateDirectory path
    (r.mapError .files, f)
  | .error e => (.error (.files e), f)
  | .ok (.directory mode) =>
    (if mode % 0o100 = 0 then .ok () else .error (.accessible path mode), f)
  | .ok _ => (.error (.noDirectory path), f)

/-- Removes an earlier socket from the place of a new one. -/
def clearSocket (f : Files) (path : String) : Except SocketError Files :=
  match f.look path with
  | .error .notFound => .ok f
  | .error e => .error (.files e)
  | .ok (.socket _) => (f.remove path).mapError .files
  | .ok _ => .error (.noSocket path)

end Files

/-! ## Binding -/

namespace Files

/-- Binds the socket of a channel, which leads to a listener, in a directory, and gives its path.
When a check fails the files may have changed already, so they are given in either case. -/
def bindSocket (f : Files) (directory channel : String) (listener : ListenerId) :
    Except SocketError String × Files :=
  let path := Path.socket directory channel
  match f.ensurePrivate directory with
  | (.error e, f) => (.error e, f)
  | (.ok (), f) =>
    match f.clearSocket path with
    | .error e => (.error e, f)
    | .ok f =>
      match f.addSocket path listener with
      | .error e => (.error (.files e), f)
      | .ok f => (.ok path, f)

/-- Removes what is at the path of a socket whose listener is dropped. What cannot be removed is
reported, unless it is not there at all. -/
def releaseSocket (f : Files) (path : String) : Option Event × Files :=
  match f.remove path with
  | .ok f => (none, f)
  | .error .notFound => (none, f)
  | .error e => (some (.socketUnlinkFailed path e.message), f)

end Files

end KeyBridge
