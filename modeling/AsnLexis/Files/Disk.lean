import AsnLexis.Files.Fault
import AsnLexis.Path
import AsnLexis.Store.Dump

/-! The disk. A path on it is followed name by name, and each name is looked up in a directory that
is there, be it only to step up again. -/

namespace AsnLexis

inductive Item where
  | directory
  | file (content : Bytes)
  | database (store : Store)
  deriving DecidableEq, Repr

/-- A disk: what is at its places, which are clean paths. -/
structure Disk where
  items : List (Bytes × Item) := []
  deriving DecidableEq, Repr

namespace Disk

/-- What is at a place. The current directory is there, and so are the root and all directories
above the current one. -/
def item? (d : Disk) (place : Bytes) : Option Item :=
  if (Path.names place).all (· == Path.above) then some .directory else d.items.lookup place

def put (d : Disk) (place : Bytes) (item : Item) : Disk :=
  { items := (place, item) :: d.items.filter (·.1 != place) }

def longestName : Nat := 255

def longestPath : Nat := 4095

/-- Follows names from a place on. What is at the place in the end need not be there. -/
def follow (d : Disk) (place : Bytes) : List Bytes → Except FileFault Bytes
  | [] => .ok place
  | name :: rest =>
    match d.item? place with
    | none => .error .missing
    | some .directory =>
      if longestName < name.length then .error .nameTooLong
      else d.follow (Path.enter place name) rest
    | some _ => .error .notDirectory

def locate (d : Disk) (path : Bytes) : Except FileFault Bytes :=
  if path.contains 0 then .error .invalidName
  else if path.isEmpty then .error .missing
  else if longestPath < path.length then .error .nameTooLong
  else d.follow (Path.start path) (Layout.split Path.solidus path)

def look (d : Disk) (path : Bytes) : Except FileFault Item :=
  match d.locate path with
  | .error fault => .error fault
  | .ok place =>
    match d.item? place with
    | some item => .ok item
    | none => .error .missing

def contains (d : Disk) (path : Bytes) : Bool := (d.look path).isOk

def isDirectory (d : Disk) (path : Bytes) : Bool :=
  match d.look path with
  | .ok .directory => true
  | _ => false

/-- What a file holds; of a database file, the dump of its store. -/
def read (d : Disk) (path : Bytes) : Except Error Bytes :=
  match d.look path with
  | .error fault => .error (fault.error "open" path)
  | .ok .directory => .error (FileFault.isDirectory.error "read" path)
  | .ok (.file content) => .ok content
  | .ok (.database store) => .ok store.dump

def write (d : Disk) (path content : Bytes) : Except Error Disk :=
  match d.locate path with
  | .error fault => .error (fault.error "open" path)
  | .ok place =>
    if d.item? place = some .directory then .error (FileFault.isDirectory.error "open" path)
    else .ok (d.put place (.file content))

def makeDirectories (d : Disk) : List Bytes → Except Error Unit × Disk
  | [] => (.ok (), d)
  | path :: rest =>
    match d.look path with
    | .ok .directory => d.makeDirectories rest
    | .ok _ => (.error (FileFault.notDirectory.error "mkdir" path), d)
    | .error .missing => (d.put (Path.clean path) .directory).makeDirectories rest
    | .error fault => (.error (fault.error "mkdir" path), d)

def makeDirectory (d : Disk) (path : Bytes) : Except Error Unit × Disk :=
  d.makeDirectories (Path.ancestors path)

def withFile (d : Disk) (path content : Bytes) : Disk :=
  ((d.makeDirectory (Path.directory path)).2).put (Path.clean path) (.file content)

end Disk

end AsnLexis
