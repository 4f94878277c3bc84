import AsnLexis.Command.Report
import AsnLexis.Pipeline.Drain
import AsnLexis.Text.Order

/-! Scanning files into a store: they are taken in as a batch, the queue is drained, and the store
is summed up. Without a database file the store and the copies of the files are in memory and go
away with the run. -/

namespace AsnLexis.Command

/-- A part of a scan: what it shows, and the workspace behind it, or the error that ends the
scan. -/
abbrev Part := Report × Workspace

def count (n : Nat) : Bytes := Numeral.decimal n

def ingestPart (env : Environment) (flags : FlagSettings) (paths : List Bytes) (w : Workspace) :
    Part :=
  if paths.isEmpty then ({}, w)
  else
    let label := labelOr env.freshLabel (flags.textOr .label [])
    let (outcome, w) := w.ingestPaths env.now label env.user paths
    match outcome.failure with
    | some e => (.failed e, w)
    | none =>
      let duplicates := (outcome.results.filter Ingested.duplicate).length
      ((Report.said (utf8 "batch " ++ Numeral.signed outcome.batch ++ utf8 ": "
          ++ count outcome.results.length ++ utf8 " files, " ++ count duplicates
          ++ utf8 " already ingested")).before
        (.when (flags.isOn .showTiming) (.timed (utf8 "ingest completed in "))), w)

def requeuePart (env : Environment) (flags : FlagSettings) (w : Workspace) : Part :=
  if !flags.isOn .resetFailed then ({}, w)
  else
    match w.onStore (·.resetFailed scanStage env.now) with
    | (.error e, w) => (.failed e, w)
    | (.ok n, w) => (.said (utf8 "requeued " ++ count n ++ utf8 " failed scans"), w)

def drainPart (env : Environment) (flags : FlagSettings) (w : Workspace) : Part × Nat :=
  let settings : ScanSettings := { profile := flags.profile }
  let (d, after) := w.drain scanStage env.worker settings env.now (flags.numberOr .workers 4)
  let log := flags.logged d.log
  match w.drainFailure d with
  | some e => ((log.before (.failed e), after), d.failed)
  | none =>
    let errors := d.errors.map fun e => Report.said (utf8 "error: " ++ e.message)
    let summary := Report.said (utf8 "scanned " ++ count d.processed ++ utf8 " source units, "
      ++ count d.failed ++ utf8 " failed")
    let timing := Report.when (flags.isOn .showTiming) (.timed (utf8 "scan completed in "))
    ((Report.all [log, .all errors, summary, timing], after), d.failed)

def statsLine (s : Store.Stats) : Bytes :=
  utf8 "store: " ++ Numeral.commas s.units ++ utf8 " source units, " ++ Numeral.commas s.scans
    ++ utf8 " scans, " ++ Numeral.commas s.diagnostics ++ utf8 " diagnostics, "
    ++ Numeral.commas s.literals ++ utf8 " literals"

def tableLines (sizes : List (String × Nat)) : List Report :=
  let rows := sizes.map fun (name, size) => (utf8 name, size)
  let sorted := rows.mergeSort fun a b => Bytes.le a.1 b.1
  (sorted.filter (0 < ·.2)).map fun (name, size) =>
    .said (utf8 "  " ++ Layout.padRight 20 name ++ utf8 " " ++ Numeral.commas size ++ utf8 " rows")

def tablesPart (path : Bytes) (flags : FlagSettings) (w : Workspace) : Report :=
  if !flags.isOn .showDbStats then {}
  else
    match w.link.tableSizes with
    | .error e => .failed (.wrap (utf8 "get table stats") e)
    | .ok sizes =>
      Report.all ([.said (utf8 "database stats:")] ++ tableLines sizes
        ++ [.when (w.files.disk?.any (·.contains path)) { notices := [.fileSize path] }])

def summaryPart (path : Bytes) (flags : FlagSettings) (failed : Nat) (w : Workspace) : Report :=
  match w.link.stats with
  | .error e => .failed e
  | .ok stats =>
    let tables := tablesPart path flags w
    match tables.failure with
    | some _ => (Report.said (statsLine stats)).before tables
    | none =>
      (Report.all [.said (statsLine stats), tables,
        .when (flags.isOn .showTiming) (.timed (utf8 "pipeline completed in "))]).before
        { failure :=
            if failed = 0 then none else some (.ofText (count failed ++ utf8 " scans failed")) }

def followed (part : Part) (next : Workspace → Part) : Part :=
  let (report, w) := part
  if report.failure.isSome then (report, w)
  else
    let (more, w) := next w
    (report.before more, w)

/-- A scan in a workspace whose store is in the database file `path`, or in memory if that is
empty. -/
def scanWorkspace (env : Environment) (flags : FlagSettings) (path : Bytes) (paths : List Bytes)
    (w : Workspace) : Part :=
  followed (ingestPart env flags paths w) fun w =>
    followed (requeuePart env flags w) fun w =>
      let (part, failed) := drainPart env flags w
      followed part fun w => (summaryPart path flags failed w, w)

/-- Scans files. What was stored before an error stays. -/
def scanFiles (env : Environment) (flags : FlagSettings) (paths : List Bytes) (disk : Disk) :
    Report × Disk :=
  let path := flags.textOr .db []
  let directory := flags.textOr .dataDir (utf8 "data")
  if path.isEmpty then
    let w : Workspace := { files := .layered disk, directory }
    ((scanWorkspace env flags path paths w).1, disk)
  else
    match disk.openDatabase path false with
    | (.error e, disk) => (.failed (.wrap (utf8 "create store") e), disk)
    | (.ok database, disk) =>
      let w : Workspace :=
        { link := .ofStore database.store, files := .onDisk disk, directory }
      let (report, w) := scanWorkspace env flags path paths w
      (report, (w.files.disk?.getD disk).keep database.place? w.link.store)

end AsnLexis.Command
