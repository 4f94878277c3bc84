import AsnLexis.Files.Fault
import AsnLexis.Path
import AsnLexis.Text.Order

/-! Files in memory. A path leads straight to what is kept under it; nothing need be kept under the
paths above it. A directory knows the paths that were entered in it, and only these are listed. -/

namespace AsnLexis

/-- What is kept under a path: a content, and for a directory the paths entered in it. -/
structure MemoryNode where
  content : Bytes := []
  members : Option (List Bytes) := none
  deriving DecidableEq, Repr

namespace MemoryNode

def directory : MemoryNode := { members := some [] }

def isDirectory (node : MemoryNode) : Bool := node.members.isSome

/-- Enters a path. A file becomes a directory by that; its content stays. -/
def enter (node : MemoryNode) (path : Bytes) : MemoryNode :=
  { node with members := some (path :: (node.members.getD []).filter (· != path)) }

def leave (node : MemoryNode) (path : Bytes) : MemoryNode :=
  { node with members := node.members.map (·.filter (· != path)) }

end MemoryNode

structure MemoryFiles where
  nodes : List (Bytes × MemoryNode) := [(Path.root, .directory)]
  deriving DecidableEq, Repr

namespace MemoryFiles

/-- The path that something is kept under. The current directory is the root, and so is the one
above it. -/
def key (path : Bytes) : Bytes :=
  let path := Path.clean path
  if path == Path.here || path == Path.above then Path.root else path

def node? (m : MemoryFiles) (path : Bytes) : Option MemoryNode := m.nodes.lookup (key path)

def contains (m : MemoryFiles) (path : Bytes) : Bool := (m.node? path).isSome

def erase (m : MemoryFiles) (path : Bytes) : MemoryFiles :=
  { nodes := m.nodes.filter (·.1 != key path) }

def put (m : MemoryFiles) (path : Bytes) (node : MemoryNode) : MemoryFiles :=
  { nodes := (key path, node) :: (m.erase path).nodes }

def above (path : Bytes) : List Bytes := (Path.ancestors (Path.directory (key path))).reverse

def enter (m : MemoryFiles) (path : Bytes) : List Bytes → MemoryFiles
  | [] => m
  | directory :: rest =>
    match m.node? directory with
    | some node => m.put directory (node.enter (key path))
    | none => (m.put directory (MemoryNode.directory.enter (key path))).enter directory rest

def create (m : MemoryFiles) (path : Bytes) (node : MemoryNode) : MemoryFiles :=
  (m.put path node).enter path (above path)

/-- What was written under a path; nothing was to a directory, as a rule. -/
def read (m : MemoryFiles) (path : Bytes) : Except Error Bytes :=
  match m.node? path with
  | some node => .ok node.content
  | none => .error (FileFault.unknown.error "open" (key path))

def write (m : MemoryFiles) (path content : Bytes) : MemoryFiles :=
  match m.node? path with
  | some node => m.put path { node with content }
  | none => m.create path { content }

def makeDirectory (m : MemoryFiles) (path : Bytes) : MemoryFiles :=
  if m.contains path then m else m.create path .directory

/-- Takes away what is kept under a path. Of a directory nothing else goes with it. -/
def remove (m : MemoryFiles) (path : Bytes) : Except Error MemoryFiles :=
  if !m.contains path then .error (FileFault.unknown.error "remove" (key path))
  else
    let directory := Path.directory (key path)
    match m.node? directory with
    | some node => .ok ((m.put directory (node.leave (key path))).erase path)
    | none => .ok (m.erase path)

/-- How often a path is found among the members of a directory: members count by their last name. -/
def entries (m : MemoryFiles) (directory path : Bytes) : Nat :=
  let members := ((m.node? directory).bind MemoryNode.members).getD []
  (members.filter fun member => Path.join [directory, Path.afterLast member] == path).length

def visits (m : MemoryFiles) (path : Bytes) : Nat :=
  let line := Path.ancestors path
  (line.zip line.tail).foldl (fun n (directory, path) => n * m.entries directory path) 1

def paths (m : MemoryFiles) : List Bytes :=
  let files := (m.nodes.filter fun (_, node) => !node.isDirectory).map Prod.fst
  Bytes.sort ((files.filter Path.isAbsolute).flatMap fun path =>
    List.replicate (m.visits path) path)

end MemoryFiles

end AsnLexis
