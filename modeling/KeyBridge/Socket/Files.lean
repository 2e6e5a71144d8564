-- SUMMARY: A tree of files in which sockets live.
import KeyBridge.Network.Basic
import KeyBridge.Socket.Path

/-!
# Files

Files are entries at locations. An entry is a directory with its permissions, a regular file, a
link to another path, or the socket of a listener. Paths lead to locations: links on the way are
followed, but not a link at the end.
-/

namespace KeyBridge

/-! ## Entries -/

inductive FileEntry where
  | directory (mode : Nat)
  | file
  | link (target : String)
  /-- The socket of a listener, which may be gone. -/
  | socket (listener : ListenerId)
deriving DecidableEq, Repr

/-- Names from the top directory down to an entry. -/
abbrev Location : Type := List String

/-- The entries at their locations. The top directory is always there; an entry for it tells its
permissions. -/
structure Files where
  entries : List (Location × FileEntry)
deriving DecidableEq, Repr

inductive FileError where
  | notFound
  | exists
  | notDirectory
  | isDirectory
  | tooManyLinks
  | invalidName
  | addressInUse
  | refused
deriving DecidableEq, Repr

namespace FileError

def kind : FileError → String
  | .notFound => "NotFound"
  | .exists => "AlreadyExists"
  | .notDirectory => "NotADirectory"
  | .isDirectory => "IsADirectory"
  | .tooManyLinks => "FilesystemLoop"
  | .invalidName => "InvalidInput"
  | .addressInUse => "AddrInUse"
  | .refused => "ConnectionRefused"

def message : FileError → String
  | .notFound => "No such file or directory (os error 2)"
  | .exists => "File exists (os error 17)"
  | .notDirectory => "Not a directory (os error 20)"
  | .isDirectory => "Is a directory (os error 21)"
  | .tooManyLinks => "Too many levels of symbolic links (os error 40)"
  | .invalidName => "file name contained an unexpected NUL byte"
  | .addressInUse => "Address already in use (os error 98)"
  | .refused => "Connection refused (os error 111)"

end FileError

namespace Files

/-! ## Locations -/

protected def empty : Files := ⟨[]⟩

def topMode (f : Files) : Nat :=
  match f.entries.lookup [] with
  | some (.directory mode) => mode
  | _ => 0o755

def get? (f : Files) (l : Location) : Option FileEntry :=
  if l = [] then some (.directory f.topMode) else f.entries.lookup l

def erase (f : Files) (l : Location) : Files := ⟨f.entries.filter fun e => e.1 ≠ l⟩

def put (f : Files) (l : Location) (e : FileEntry) : Files := ⟨(l, e) :: (f.erase l).entries⟩

/-- How many links may be followed on the way to one location. -/
def maxLinks : Nat := 40

/-- The location to which components lead from a directory. At a link that is not the end of the
way, `follow` goes on from the link's directory with its target in front of what is left. -/
def leadWith (follow : Location → List String → Except FileError Location) (f : Files) :
    Location → List String → Except FileError Location
  | here, [] => .ok here
  | here, c :: rest =>
    if Path.stays c then leadWith follow f here rest
    else if c = ".." then leadWith follow f here.dropLast rest
    else if rest = [] then .ok (here ++ [c])
    else
      match f.get? (here ++ [c]) with
      | some (.directory _) => leadWith follow f (here ++ [c]) rest
      | some (.link target) =>
        follow (if Path.isAbsolute target then [] else here) (Path.components target ++ rest)
      | some _ => .error .notDirectory
      | none => .error .notFound

/-- The location to which components lead from a directory, with at most so many links on the
way. -/
def lead (f : Files) : Nat → Location → List String → Except FileError Location
  | 0 => leadWith (fun _ _ => .error .tooManyLinks) f
  | links + 1 => leadWith (lead f links) f

/-- The location to which components lead from the top. No component has a NUL in it. -/
def locate (f : Files) (components : List String) : Except FileError Location :=
  if components.all Path.isReadable then f.lead maxLinks [] components else .error .invalidName

/-- The directory to which components lead, which may be a link at the end. -/
def locateDirectory (f : Files) (components : List String) : Except FileError Location :=
  f.locate (components ++ ["."])

/-! ## Looking -/

/-- What is at the end of a path; a link is not followed. -/
def look (f : Files) (path : String) : Except FileError FileEntry := do
  match f.get? (← f.locate (Path.components path)) with
  | some e => .ok e
  | none => .error .notFound

/-- What is at the end of a path from a directory; from a link there, `follow` goes on with its
target. -/
def reachWith (follow : Location → List String → Except FileError FileEntry) (f : Files)
    (here : Location) (components : List String) : Except FileError FileEntry := do
  let l ← f.lead maxLinks here components
  match f.get? l with
  | some (.link target) =>
    follow (if Path.isAbsolute target then [] else l.dropLast) (Path.components target)
  | some e => .ok e
  | none => .error .notFound

def reachFrom (f : Files) : Nat → Location → List String → Except FileError FileEntry
  | 0 => reachWith (fun _ _ => .error .tooManyLinks) f
  | links + 1 => reachWith (reachFrom f links) f

/-- What is at the end of a path, with all links followed. -/
def reach (f : Files) (path : String) : Except FileError FileEntry :=
  if (Path.components path).all Path.isReadable then
    f.reachFrom maxLinks [] (Path.components path)
  else .error .invalidName

def listener (f : Files) (path : String) : Except FileError ListenerId := do
  match ← f.reach path with
  | .socket listener => .ok listener
  | _ => .error .refused

/-! ## Making and removing -/

def add (f : Files) (components : List String) (e : FileEntry) : Except FileError Files := do
  let l ← f.locate components
  if (f.get? l).isSome then .error .exists else .ok (f.put l e)

def withoutSlashes (components : List String) : List String :=
  (components.reverse.dropWhile (· = "")).reverse

def makeDirectory (f : Files) (components : List String) (mode : Nat) : Except FileError Files :=
  f.add (withoutSlashes components) (.directory mode)

/-- Components without those at their end that stay where they are. -/
def withoutStays (components : List String) : List String :=
  (components.reverse.dropWhile Path.stays).reverse

/-- The paths that lead to the directories on the way to the end of a path, outermost first. -/
def ancestors (components : List String) : List (List String) :=
  let core := withoutStays components
  ((List.range (core.length - 1)).map fun n => core.take (n + 1)).filter fun cs =>
    !(cs.getLast?.any Path.stays)

/-- Makes the directory at the end of a path unless it is there. -/
def ensureDirectory (mode : Nat) (f : Files) (components : List String) :
    Except FileError Files :=
  match f.makeDirectory components mode with
  | .ok f => .ok f
  | .error e => if (f.locateDirectory components).isOk then .ok f else .error e

/-- Makes directories in order up to the first that cannot be made. Those made before stay. -/
def ensureDirectories (mode : Nat) (f : Files) : List (List String) → Except FileError Unit × Files
  | [] => (.ok (), f)
  | p :: rest =>
    match ensureDirectory mode f p with
    | .ok f => ensureDirectories mode f rest
    | .error e => (.error e, f)

def makeDirectories (f : Files) (components : List String) (mode : Nat) :
    Except FileError Unit × Files :=
  ensureDirectories mode f (ancestors components ++ [components])

def setMode (f : Files) (components : List String) (mode : Nat) : Except FileError Files := do
  .ok (f.put (← f.locateDirectory components) (.directory mode))

/-- Removes what is at the end of a path, if that is not a directory. -/
def remove (f : Files) (path : String) : Except FileError Files := do
  let l ← f.locate (Path.components path)
  match f.get? l with
  | none => .error .notFound
  | some (.directory _) => .error .isDirectory
  | some _ => .ok (f.erase l)

/-- Removes what is at the end of a path and all that is below it. -/
def removeAll (f : Files) (path : String) : Except FileError Files := do
  let l ← f.locate (Path.components path)
  if (f.get? l).isSome then .ok ⟨f.entries.filter fun e => !l.isPrefixOf e.1⟩ else .error .notFound

def addSocket (f : Files) (path : String) (listener : ListenerId) : Except FileError Files :=
  match f.add (Path.components path) (.socket listener) with
  | .error .exists => .error .addressInUse
  | r => r

end Files

end KeyBridge
