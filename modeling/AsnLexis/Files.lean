import AsnLexis.Files.Disk
import AsnLexis.Files.Memory

/-! The files that the services read and write. They are in memory, on disk, or in a layer in memory
over the disk. -/

namespace AsnLexis

inductive Medium where
  | memory (files : MemoryFiles)
  | disk (disk : Disk)
  /-- What is on the disk below can be read, and what is written stays in the layer. -/
  | overlay (layer : MemoryFiles) (below : Disk)
  deriving DecidableEq, Repr

structure Files where
  medium : Medium := .memory {}
  readOnly : Bool := false
  deriving DecidableEq, Repr

namespace Overlay

/-- Whether a path leads to the disk: nothing is in the layer under it, and something is on the
disk. -/
def isBelow (layer : MemoryFiles) (below : Disk) (path : Bytes) : Except Error Bool :=
  if layer.contains path then .ok false
  else
    match below.look path with
    | .ok _ => .ok true
    | .error .missing => .ok false
    | .error .notDirectory => .ok false
    | .error fault => .error (fault.error "stat" path)

def read (layer : MemoryFiles) (below : Disk) (path : Bytes) : Except Error Bytes :=
  match isBelow layer below path with
  | .error e => .error e
  | .ok true => below.read path
  | .ok false => layer.read path

def makeDirectory (layer : MemoryFiles) (below : Disk) (path : Bytes) : MemoryFiles :=
  if below.isDirectory path then layer else layer.makeDirectory path

/-- Writes into the layer. A file on the disk must be one that can be read; for a new one its
directory must not lie behind a file. -/
def write (layer : MemoryFiles) (below : Disk) (path content : Bytes) :
    Except Error MemoryFiles :=
  match isBelow layer below path with
  | .error e => .error e
  | .ok true => (below.read path).map fun _ => layer.write path content
  | .ok false =>
    let directory := Path.directory path
    match below.look directory with
    | .ok _ => .ok (layer.write path content)
    | .error .missing => .ok (layer.write path content)
    | .error fault => .error (fault.error "stat" directory)

end Overlay

namespace Files

def inMemory : Files := {}

def onDisk (disk : Disk) : Files := { medium := .disk disk }

def layered (below : Disk) : Files := { medium := .overlay {} below }

def disk? (fs : Files) : Option Disk :=
  match fs.medium with
  | .memory _ => none
  | .disk disk => some disk
  | .overlay _ below => some below

def notPermitted : Error := .ofText (utf8 "operation not permitted")

def read (fs : Files) (path : Bytes) : Except Error Bytes :=
  match fs.medium with
  | .memory files => files.read path
  | .disk disk => disk.read path
  | .overlay layer below => Overlay.read layer below path

/-- Makes sure that there is a directory. Of the directories above it, those that could be made
stay. -/
def makeDirectory (fs : Files) (path : Bytes) : Except Error Unit × Files :=
  if fs.readOnly then (.error notPermitted, fs)
  else
    match fs.medium with
    | .memory files => (.ok (), { fs with medium := .memory (files.makeDirectory path) })
    | .disk disk =>
      let (result, disk) := disk.makeDirectory path
      (result, { fs with medium := .disk disk })
    | .overlay layer below =>
      (.ok (), { fs with medium := .overlay (Overlay.makeDirectory layer below path) below })

def write (fs : Files) (path content : Bytes) : Except Error Files :=
  if fs.readOnly then .error notPermitted
  else
    match fs.medium with
    | .memory files => .ok { fs with medium := .memory (files.write path content) }
    | .disk disk => (disk.write path content).map fun disk => { fs with medium := .disk disk }
    | .overlay layer below =>
      (Overlay.write layer below path content).map fun layer =>
        { fs with medium := .overlay layer below }

end Files

end AsnLexis
