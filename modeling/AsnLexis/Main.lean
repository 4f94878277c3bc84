import AsnLexis.Command.Measure
import AsnLexis.Command.Run
import AsnLexis.Store.Dump

/-! The program: it loads the files that a command line is about, runs the command line, shows what
came of it, and writes the files that changed. -/

namespace AsnLexis.Program

def nameOf (path : Bytes) : String := String.ofList (Utf8.decodeLossy path)

def bytesOf (content : ByteArray) : Bytes := content.toList

def packed (bytes : Bytes) : ByteArray := ⟨bytes.toArray⟩

def fileContent? (path : Bytes) : IO (Option Bytes) := do
  try
    return some (bytesOf (← IO.FS.readBinFile (nameOf path)))
  catch _ => return none

def isDirectory (path : Bytes) : IO Bool := do
  try
    (← IO.FS.realPath (nameOf path)).isDir
  catch _ => return false

def loadPath (disk : Disk) (path : Bytes) : IO Disk := do
  if path.isEmpty then return disk
  let place := Path.clean path
  if ← isDirectory path then return disk.put place .directory
  match ← fileContent? path with
  | none => return disk
  | some content =>
    match Store.ofDump? content with
    | some store => return disk.put place (.database store)
    | none => return disk.put place (.file content)

/-- Loads what is at some paths and on the way to them, each path as it is written. -/
def loadPaths (disk : Disk) (paths : List Bytes) : IO Disk := do
  let mut disk := disk
  for path in paths do
    let parts := Layout.split Path.solidus path
    for n in List.range parts.length do
      disk ← loadPath disk (Layout.join Path.root (parts.take (n + 1)))
  return disk

def databaseFile (path : Bytes) : List Bytes :=
  match Locator.ofPath path with
  | .error _ => [path]
  | .ok l => [path, l.name]

/-- Loads what an invocation is about: its operands and settings file, then the database that the
settings name, then the copies that belong to its store. -/
def loadFor (i : Invocation) : IO Disk := do
  let disk ← loadPaths {} (i.flags.textOr .configFile [] :: i.operands.flatMap databaseFile)
  match i.config disk with
  | .error _ => return disk
  | .ok config =>
    let settings := i.settings config
    let path := settings.textOr .db []
    let directory := settings.textOr .dataDir (utf8 "data")
    let disk ← loadPaths disk (directory :: databaseFile path)
    match (disk.openStore path false).1 with
    | .error _ => return disk
    | .ok database =>
      let next := Path.join [utf8 "batches", Numeral.signed database.store.batches.next]
      let paths := next :: database.store.units.rows.map SourceUnit.path
      loadPaths disk (paths.map fun path => Path.join [directory, path])

def saveItem (place : Bytes) : Item → IO Unit
  | .directory => IO.FS.createDirAll (nameOf place)
  | .file content => IO.FS.writeBinFile (nameOf place) (packed content)
  | .database store => IO.FS.writeBinFile (nameOf place) (packed store.dump)

/-- Writes what is not as it was, what was put down first coming first. -/
def saveChanges (before after : Disk) : IO Unit := do
  for (place, item) in after.items.reverse do
    if before.items.lookup place != some item then saveItem place item

/-- The present time, which a file made now carries. -/
def presentTime : IO Instant := do
  let (_, path) ← IO.FS.createTempFile
  let time := (← path.metadata).modified
  IO.FS.removeFile path
  return .sinceEpoch time.sec

def environment : IO Environment := do
  let user := (← IO.getEnv "USER").getD ""
  let label := randomLabel (bytesOf (← IO.getRandomBytes 16))
  return { user := utf8 user, worker := utf8 "asnlex", freshLabel := label, now := ← presentTime }

def measure (notice : Notice) : IO Bytes := do
  match notice.measured? with
  | none => return []
  | some path => return sizeText ((← fileContent? path).map List.length |>.getD 0)

def showReport (report : Report) (started : Nat) : IO Unit := do
  (← IO.getStdout).write (packed report.output)
  let elapsed := elapsedText ((← IO.monoMsNow) - started)
  for notice in report.asides do
    (← IO.getStderr).write (packed (notice.shown elapsed (← measure notice)))

partial def watch (flags : FlagSettings) (disk : Disk) (paths : List Bytes) : IO Unit := do
  IO.sleep 500
  let started ← IO.monoMsNow
  let latest ← loadPaths {} paths
  for path in paths do
    if (latest.read path).toOption != (disk.read path).toOption then
      showReport (Command.lexFile latest flags path) started
  watch flags latest paths

def run (arguments : List Bytes) : IO UInt32 := do
  let started ← IO.monoMsNow
  let before ← match Request.ofArguments arguments with
    | .ok (.run i) => loadFor i
    | _ => pure {}
  let (report, after) := runCommandLine (← environment) arguments before
  saveChanges before after
  showReport report started
  match Request.ofArguments arguments, report.watched with
  | .ok (.run i), _ :: _ =>
    let config := (i.config before).toOption.getD {}
    watch (i.settings config) after report.watched
  | _, _ => pure ()
  return UInt32.ofNat report.exitCode

end AsnLexis.Program

def main (arguments : List String) : IO UInt32 := AsnLexis.Program.run (arguments.map AsnLexis.utf8)
