-- SUMMARY: Paths of sockets: joining, components, and where sockets are put.
/-!
# Socket paths

A path is text. A slash at its start makes it absolute; otherwise it leads on from a directory.
Sockets are put into one directory, each under the name of its channel with `.sock` after it.
-/

namespace KeyBridge.Path

/-! ## Joining and splitting -/

def isAbsolute (path : String) : Bool := path.toList.head? = some '/'

/-- The path that leads on from a directory. An absolute path stays what it is; otherwise one
slash is put between, unless the directory is empty or ends with one. -/
def join (directory path : String) : String :=
  if isAbsolute path then path
  else if directory.isEmpty || directory.toList.getLast? = some '/' then directory ++ path
  else directory ++ "/" ++ path

/-- The pieces of text between slashes, with the piece that is being read. -/
def piecesFrom (piece : List Char) : List Char → List String
  | [] => [String.ofList piece]
  | c :: cs =>
    if c = '/' then String.ofList piece :: piecesFrom [] cs else piecesFrom (piece ++ [c]) cs

/-- The components of a path: the pieces between its slashes, with the empty ones. -/
def components (path : String) : List String := piecesFrom [] path.toList

/-- Whether there can be a component: none has a NUL in it. -/
def isReadable (component : String) : Bool := !component.toList.contains '\x00'

def stays (component : String) : Bool := component = "" || component = "."

/-! ## Where sockets are put -/

def socket (directory channel : String) : String := join directory (channel ++ ".sock")

/-- The directory for a user's sockets: inside the user's runtime directory, or else a directory
of the user's own inside that for temporary files. -/
def userDirectory (runtime temporary : Option String) (user : String) : String :=
  match runtime with
  | none | some "" => join (temporary.getD "/tmp") ("ahk-host-" ++ user)
  | some directory => join directory "ahk-host"

end KeyBridge.Path
