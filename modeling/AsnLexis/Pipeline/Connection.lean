import AsnLexis.Store.Ingest
import AsnLexis.Store.Query
import AsnLexis.Store.Queue
import AsnLexis.Store.Scans

/-! A store as its callers reach it. A call can be refused without any effect: because it is made to
fail, because the store is closed, or because the caller has given up. -/

namespace AsnLexis

inductive Call where
  | insertBatch
  | unitByDigest
  | unitById
  | insertUnit
  | insertWork
  | claimWork
  | finishWork
  | insertScan
  deriving DecidableEq, Repr

/-- A store, whether it is closed, whether its caller has given up, and the calls that fail, each
with the reason. While `hidesUnits` is set no unit is found by its id. -/
structure Connection where
  store : Store := {}
  closed : Bool := false
  cancelled : Bool := false
  outages : List (Call × Bytes) := []
  hidesUnits : Bool := false

namespace Connection

def ofStore (store : Store) : Connection := { store }

def withStore (c : Connection) (store : Store) : Connection := { c with store }

def fail (c : Connection) (call : Call) (reason : Bytes) : Connection :=
  { c with outages := (call, reason) :: c.outages.filter (·.1 != call) }

def unfail (c : Connection) (call : Call) : Connection :=
  { c with outages := c.outages.filter (·.1 != call) }

def givenUp : Error := .ofText (utf8 "context canceled")

def outage? (c : Connection) (call : Call) : Option Error :=
  (c.outages.lookup call).map Error.ofText

def barrier? (c : Connection) : Option Error :=
  if c.closed then some (.ofText (utf8 "sql: database is closed"))
  else if c.cancelled then some givenUp
  else none

def ask {α : Type} (c : Connection) (title : Bytes) (answer : Store → α) : Except Error α :=
  match c.barrier? with
  | some reason => .error (.wrap title reason)
  | none => .ok (answer c.store)

def askCall {α : Type} (c : Connection) (call : Call) (title : Bytes) (answer : Store → α) :
    Except Error α :=
  match c.outage? call with
  | some e => .error e
  | none => c.ask title answer

def change {α : Type} (c : Connection) (title : Bytes) (step : Store → α × Store) :
    Except Error α × Connection :=
  match c.ask title step with
  | .error e => (.error e, c)
  | .ok (a, store) => (.ok a, c.withStore store)

def insert {α ε : Type} (c : Connection) (call : Call) (title : Bytes)
    (step : Store → Except ε (α × Store)) (explain : ε → Error) : Except Error α × Connection :=
  match c.askCall call title step with
  | .error e => (.error e, c)
  | .ok (.error e) => (.error (explain e), c)
  | .ok (.ok (a, store)) => (.ok a, c.withStore store)

def broken (title : Bytes) (constraint : Constraint) : Error :=
  .wrap title (.ofText constraint.message)

def insertBatch (c : Connection) (label createdBy : Bytes) (createdAt : Instant) :
    Except Error RowId × Connection :=
  c.insert .insertBatch (utf8 "insert upload_batch")
    (fun s => .ok (s.insertBatch label createdBy createdAt)) Empty.elim

def batch? (c : Connection) (id : RowId) : Except Error (Option Batch) :=
  c.ask (utf8 "get upload_batch " ++ Numeral.signed id) (·.batch? id)

def insertUnit (c : Connection) (u : Store.NewUnit) : Except Error RowId × Connection :=
  let title := utf8 "insert source_unit"
  c.insert .insertUnit title (·.insertUnit u) (broken title)

def unitByDigest? (c : Connection) (digest : Bytes) : Except Error (Option SourceUnit) :=
  c.askCall .unitByDigest (utf8 "get source_unit") (·.unitByDigest? digest)

def unit? (c : Connection) (id : RowId) : Except Error (Option SourceUnit) :=
  match c.outage? .unitById with
  | some e => .error e
  | none => if c.hidesUnits then .ok none else c.ask (utf8 "get source_unit") (·.unit? id)

def insertWork (c : Connection) (w : Store.NewWork) : Except Error RowId × Connection :=
  let title := utf8 "insert work"
  c.insert .insertWork title (·.insertWork w) (broken title)

def claimWork (c : Connection) (stage worker : Bytes) (now : Instant) :
    Except Error (Option Work) × Connection :=
  c.insert .claimWork (utf8 "claim work") (fun s => .ok (s.claimWork stage worker now)) Empty.elim

/-- Finishes a running job. The status asked for is looked at before anything else. -/
def finishWork (c : Connection) (id : RowId) (status code message : Bytes) (now : Instant) :
    Except Error Unit × Connection :=
  let title := utf8 "finish work " ++ Numeral.signed id
  match c.outage? .finishWork with
  | some e => (.error e, c)
  | none =>
    match Store.Ending.ofText? status with
    | none => (.error (.wrap title (.ofText (utf8 "invalid status " ++ Quoted.text status))), c)
    | some ending =>
      match c.ask title (·.finishWork? id ending code message now) with
      | .error e => (.error e, c)
      | .ok none => (.error (.wrap title (.ofText (utf8 "not running"))), c)
      | .ok (some store) => (.ok (), c.withStore store)

def finishJob (c : Connection) (id : RowId) (failure : Option (Bytes × Bytes)) (now : Instant) :
    Except Error Unit × Connection :=
  match failure with
  | some (code, message) => c.finishWork id (utf8 Status.failed.name) code message now
  | none => c.finishWork id (utf8 Status.ok.name) [] [] now

def resetFailed (c : Connection) (stage : Bytes) (now : Instant) : Except Error Nat × Connection :=
  c.change (utf8 "reset failed work") (·.resetFailed stage now)

def failedWork (c : Connection) (stage : Bytes) : Except Error (List Work) :=
  c.ask (utf8 "get failed work") (·.failedWork stage)

def summary (c : Connection) (batch : RowId) : Except Error (List (Bytes × List (Status × Nat))) :=
  c.ask (utf8 "work summary") (·.summary batch)

def partTitle : Store.ScanPart → Bytes
  | .scan => utf8 "insert scan"
  | .diagnostic seq => utf8 "insert diagnostic " ++ Numeral.signed seq
  | .literal handle => utf8 "insert literal " ++ Numeral.signed handle

def insertScan (c : Connection) (n : Store.NewScan) : Except Error RowId × Connection :=
  c.insert .insertScan (utf8 "begin tx") (·.insertScan n)
    fun (part, constraint) => broken (partTitle part) constraint

def latestScan? (c : Connection) (unit : RowId) : Except Error (Option Scan) :=
  c.ask (utf8 "get scan") (·.latestScan? unit)

def diagnosticsOf (c : Connection) (scan : RowId) : Except Error (List ScanDiagnostic) :=
  c.ask (utf8 "list diagnostics") (·.diagnosticsOf scan)

def literalsOf (c : Connection) (scan : RowId) : Except Error (List ScanLiteral) :=
  c.ask (utf8 "list literals") (·.literalsOf scan)

def stats (c : Connection) : Except Error Store.Stats := c.ask (utf8 "stats") Store.stats

def tableSizes (c : Connection) : Except Error (List (String × Nat)) :=
  c.ask (utf8 "table stats") Store.tableSizes

/-- Runs a statement. Its errors have no name in front. -/
def query (c : Connection) (text : Bytes) : Except Error QueryResult × Connection :=
  match c.barrier? with
  | some reason => (.error reason, c)
  | none =>
    match c.store.query text with
    | .error flaw => (.error (.ofText flaw.message), c)
    | .ok (result, store) => (.ok result, c.withStore store)

end Connection

end AsnLexis
