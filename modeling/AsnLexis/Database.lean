import AsnLexis.Database.Locator
import AsnLexis.Files.Disk

/-! Database files: stores that are kept on disk beside ordinary files. Whether a database file is
there is asked of the disk by its path as it is given; which file is opened is what the path says as
a locator. -/

namespace AsnLexis

/-- A store that was opened, and the place of its file; without one it is not kept. -/
structure Database where
  store : Store
  place? : Option Bytes := none
  deriving DecidableEq, Repr

namespace Database

def schemaVersion : Int := 1

def fresh : Database := { store := { version := schemaVersion } }

def empty : Store := { version := 0 }

def setUp (database : Database) : Database :=
  { database with store := { database.store with version := schemaVersion } }

end Database

namespace Disk

def longestPlace : Nat := 511

def isFile (d : Disk) (place : Bytes) : Bool := (d.item? place).any (· != .directory)

/-- The place that the names of a database file lead to. A directory can be stepped up from without
being there, but nothing can be behind a file. -/
def settle (d : Disk) (place : Bytes) : List Bytes → Option Bytes
  | [] => if longestPlace < place.length then none else some place
  | name :: rest =>
    let stays := name.isEmpty || name == Path.here || name == Path.above
    if !stays && (longestName < name.length || d.isFile place) then none
    else d.settle (Path.enter place name) rest

def refused (reason : Bytes) : Error := .wrap (utf8 "open database") (.ofText reason)

def cannotOpen : Error := refused (utf8 "unable to open database file: out of memory (14)")

def notDatabase : Error := refused (utf8 "file is not a database (26)")

def misnamed : Locator.Flaw → Error
  | .misread reason => refused reason
  | .refused => refused (utf8 "SQL logic error: out of memory (1)")

/-- The store in the file at a place. A file of one byte at most is a store without tables. -/
def storeAt (d : Disk) (creates : Bool) (place : Bytes) : Except Error Store :=
  match d.item? place with
  | some (.database store) => .ok store
  | some (.file []) => .ok Database.empty
  | some (.file [_]) => .ok Database.empty
  | some (.file _) => .error notDatabase
  | some .directory => .error cannotOpen
  | none =>
    if creates && d.item? (Path.directory place) = some .directory then .ok Database.empty
    else .error cannotOpen

def keep (d : Disk) (place? : Option Bytes) (store : Store) : Disk :=
  match place? with
  | none => d
  | some place => d.put place (.database store)

def openNamed (d : Disk) (path : Bytes) : Except Error Database × Disk :=
  match Locator.ofPath path with
  | .error flaw => (.error (misnamed flaw), d)
  | .ok l =>
    if l.isTemporary then (.ok { store := Database.empty }, d)
    else
      match d.settle (Path.start l.name) (Layout.split Path.solidus l.name) with
      | none => (.error cannotOpen, d)
      | some place =>
        match d.storeAt l.creates place with
        | .error e => (.error e, d)
        | .ok store => (.ok ⟨store, some place⟩, d.keep (some place) store)

def absent (path : Bytes) : Bytes := utf8 "database file does not exist: " ++ path

def isAbsent (d : Disk) (path : Bytes) : Bool :=
  match d.look path with
  | .error .missing => true
  | _ => false

def createDatabase (d : Disk) (path : Bytes) : Except Error Unit × Disk :=
  if d.contains path then
    (.error (.ofText (utf8 "database file already exists: " ++ path)), d)
  else
    match d.openNamed path with
    | (.error e, d) => (.error e, d)
    | (.ok database, d) => (.ok (), d.keep database.place? database.setUp.store)

/-- Opens a database file. Its version must be the current one, unless the tables are to be set
up. -/
def openDatabase (d : Disk) (path : Bytes) (setUp : Bool) : Except Error Database × Disk :=
  if d.isAbsent path then
    (.error (.ofText (absent path ++ utf8 " (run init-db to create it)")), d)
  else
    match d.openNamed path with
    | (.error e, d) => (.error e, d)
    | (.ok database, d) =>
      if setUp then (.ok database.setUp, d.keep database.place? database.setUp.store)
      else if database.store.version = Database.schemaVersion then (.ok database, d)
      else
        (.error (.ofText (path ++ utf8 ": schema version "
          ++ Numeral.signed database.store.version ++ utf8 ", want "
          ++ Numeral.signed Database.schemaVersion)), d)

/-- Opens the store that a path stands for. The empty path stands for a fresh store in memory. -/
def openStore (d : Disk) (path : Bytes) (setUp : Bool) : Except Error Database × Disk :=
  if path.isEmpty then (.ok Database.fresh, d) else d.openDatabase path setUp

def compactDatabase (d : Disk) (path : Bytes) : Except Error Unit × Disk :=
  if d.isAbsent path then (.error (.ofText (absent path)), d)
  else
    match d.openNamed path with
    | (.error e, d) => (.error e, d)
    | (.ok _, d) => (.ok (), d)

end Disk

end AsnLexis
