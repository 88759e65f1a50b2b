import HostSetup.Host.Errno

/-!
A directory with its files, in which paths are resolved as an operating system does it: every
component but the last has to be a directory.
-/
namespace HostSetup
namespace FileTree

inductive Node
  | directory
  | file (bytes : ByteArray) (executable : Bool)
  deriving Inhabited

/-- Names from the outermost directory inwards. -/
abbrev Location := List String

end FileTree

/-- The node put last at a location is the one that stands there. -/
structure FileTree where
  nodes : List (FileTree.Location × FileTree.Node) := []

namespace FileTree

/-- Where a path leads. -/
inductive Place
  | inside (location : Location)
  /-- A directory around the tree. -/
  | around
  /-- A name in a directory around the tree. -/
  | unknown
  deriving DecidableEq

def node? (t : FileTree) : Place → Option Node
  | .inside [] | .around => some .directory
  | .inside location => (t.nodes.find? (·.1 == location)).map (·.2)
  | .unknown => none

def Place.parent : Place → Place
  | .inside [] => .around
  | .inside location => .inside location.dropLast
  | other => other

def Place.child (name : String) : Place → Place
  | .inside location => .inside (location ++ [name])
  | _ => .unknown

/-- Bytes in a name. -/
def nameLimit : Nat := 255

/-- Bytes in a path. -/
def pathLimit : Nat := 4095

/-- From a directory to what a component names in it, which need not exist. -/
def advance (t : FileTree) (place : Place) (component : String) : Except IoError Place :=
  match t.node? place with
  | none => .error (.os Errno.notFound)
  | some (.file ..) => .error (.os Errno.notDirectory)
  | some .directory =>
    if component.isEmpty ∨ component = "." then .ok place
    else if component = ".." then .ok place.parent
    else if nameLimit < component.utf8ByteSize then .error (.os Errno.nameTooLong)
    else .ok (place.child component)

def components (path : String) : List String := (path.toList.splitOn '/').map .ofList

/-- Paths that no operating system takes, wherever they lead. -/
def checkPath (path : String) : Except IoError Unit :=
  if '\x00' ∈ path.toList then .error (.custom "file name contained an unexpected NUL byte")
  else if path.isEmpty then .error (.os Errno.notFound)
  else if pathLimit < path.utf8ByteSize then .error (.os Errno.nameTooLong)
  else .ok ()

def start (path : String) : Place := if path.toList.head? = some '/' then .around else .inside []

def resolve (t : FileTree) (path : String) : Except IoError Place := do
  checkPath path
  (components path).foldlM t.advance (start path)

def read (t : FileTree) (path : String) : Except IoError ByteArray := do
  match t.node? (← t.resolve path) with
  | none => .error (.os Errno.notFound)
  | some .directory => .error (.os Errno.isDirectory)
  | some (.file bytes _) => .ok bytes

def readText (t : FileTree) (path : String) : Except IoError String := do
  match String.fromUTF8? (← t.read path) with
  | some text => .ok text
  | none => .error (.custom "stream did not contain valid UTF-8")

def put (location : Location) (node : Node) (t : FileTree) : FileTree := ⟨(location, node) :: t.nodes⟩

/-- The directories before the last component, and this one; it is none if it only says again that
a directory is meant. -/
def splitLast (path : String) : List String × Option String :=
  let parts := components path
  match parts.reverse.dropWhile (·.isEmpty) with
  | [] => (parts, none)
  | last :: before =>
    if last = "." ∨ last = ".." then (parts, none)
    else (before.reverse, if (parts.getLast?.getD "").isEmpty then none else some last)

/-- Writes a file, or writes it anew. What is meant to be a directory is not written. -/
def writeText (path text : String) (t : FileTree) : Except IoError FileTree := do
  checkPath path
  let (outer, last?) := splitLast path
  let directory ← outer.foldlM t.advance (start path)
  let place ← t.advance directory (last?.getD ".")
  match last?, place, t.node? place with
  | none, _, _ | _, _, some .directory => .error (.os Errno.isDirectory)
  | _, .inside location, some (.file _ executable) => .ok (t.put location (.file text.toUTF8 executable))
  | _, .inside location, none => .ok (t.put location (.file text.toUTF8 false))
  | _, _, _ => .error (.os Errno.notFound)

/-- A node with the directories around it. -/
def add (path : String) (node : Node) (t : FileTree) : FileTree :=
  let names := (components path).filter (!·.isEmpty)
  let outer := (List.range names.length).filterMap fun n => if n = 0 then none else some (names.take n)
  (outer.foldl (fun t location => t.put location .directory) t).put names node

def isExecutable (t : FileTree) (place : Except IoError Place) : Bool :=
  match place.toOption.bind t.node? with
  | some .directory | some (.file _ true) => true
  | _ => false

/-- The components by which a path is told from a mere name: a leading dot counts, others do not. -/
def parts (path : String) : List String :=
  let root := if path.toList.head? = some '/' then ["/"] else []
  let names := (components path).filter fun name => !name.isEmpty && name ≠ "."
  let here := if (components path).head? = some "." then ["."] else []
  root ++ here ++ names

/-- A program is looked for among those of the directory `bin`, unless its name is a path. -/
def hasProgram (t : FileTree) (name : String) : Bool :=
  if (parts name).length ≤ 1 then
    t.isExecutable (if name.toList.head? = some '/' then t.resolve name else t.resolve ("bin/" ++ name))
  else t.isExecutable (t.resolve ("/".intercalate (parts name)))

end FileTree
end HostSetup
