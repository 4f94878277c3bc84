import AsnLexis.Store.Basic

/-! Scans in the store. A scan is stored with its diagnostics and literals or not at all. -/

namespace AsnLexis.Store

structure NewDiagnostic where
  seq : Int
  code : Bytes
  severity : Bytes
  message : Bytes
  fatal : Bool
  span : Span
  deriving DecidableEq, Repr

structure NewLiteral where
  handle : Int
  raw : Bytes
  value : Bytes
  oidIri : Bytes
  span : Span
  deriving DecidableEq, Repr

/-- A scan that is to be stored. The numbers are taken as they are given. -/
structure NewScan where
  unit : RowId
  bom : Bool
  tokens : Int
  diagnosticCount : Int
  literalCount : Int
  fatalCode : Bytes
  fatalMessage : Bytes
  startedAt : Instant
  finishedAt : Instant
  diagnostics : List NewDiagnostic
  literals : List NewLiteral
  deriving DecidableEq, Repr

inductive ScanPart where
  | scan
  | diagnostic (seq : Int)
  | literal (handle : Int)
  deriving DecidableEq, Repr

def scanRow (n : NewScan) (id : RowId) : Scan :=
  ⟨id, n.unit, n.bom, n.tokens, n.diagnosticCount, n.literalCount, present n.fatalCode,
    present n.fatalMessage, n.startedAt.text, n.finishedAt.text⟩

def diagnosticRow (scan : RowId) (d : NewDiagnostic) (id : RowId) : ScanDiagnostic :=
  ⟨id, scan, d.seq, d.code, d.severity, d.message, d.fatal, d.span⟩

def literalRow (scan : RowId) (l : NewLiteral) (id : RowId) : ScanLiteral :=
  ⟨id, scan, l.handle, l.raw, l.value, present l.oidIri, l.span⟩

def insertDiagnostic (t : Table ScanDiagnostic) (scan : RowId) (d : NewDiagnostic) :
    Except (ScanPart × Constraint) (Table ScanDiagnostic) :=
  if t.rows.any (fun r => r.scan == scan && r.seq == d.seq) then
    .error (.diagnostic d.seq, .uniqueSeq)
  else .ok (t.push (diagnosticRow scan d))

def insertLiteral (t : Table ScanLiteral) (scan : RowId) (l : NewLiteral) :
    Except (ScanPart × Constraint) (Table ScanLiteral) :=
  if t.rows.any (fun r => r.scan == scan && r.handle == l.handle) then
    .error (.literal l.handle, .uniqueHandle)
  else .ok (t.push (literalRow scan l))

def insertScan (s : Store) (n : NewScan) : Except (ScanPart × Constraint) (RowId × Store) :=
  if (s.unit? n.unit).isNone then .error (.scan, .reference)
  else
    let id := s.scans.next
    match n.diagnostics.foldlM (insertDiagnostic · id) s.diagnostics with
    | .error e => .error e
    | .ok diagnostics =>
      match n.literals.foldlM (insertLiteral · id) s.literals with
      | .error e => .error e
      | .ok literals =>
        .ok (id, { s with scans := s.scans.push (scanRow n), diagnostics, literals })

def latestScan? (s : Store) (unit : RowId) : Option Scan :=
  (s.scans.rows.filter (·.unit == unit)).getLast?

def diagnosticsOf (s : Store) (scan : RowId) : List ScanDiagnostic :=
  (s.diagnostics.rows.filter (·.scan == scan)).mergeSort fun a b => a.seq ≤ b.seq

def literalsOf (s : Store) (scan : RowId) : List ScanLiteral :=
  (s.literals.rows.filter (·.scan == scan)).mergeSort fun a b => a.handle ≤ b.handle

structure Stats where
  units : Nat
  scans : Nat
  diagnostics : Nat
  literals : Nat
  failedWork : Nat
  deriving DecidableEq, Repr

def stats (s : Store) : Stats :=
  ⟨s.units.size, s.scans.size, s.diagnostics.size, s.literals.size,
    (s.works.rows.filter (·.status == .failed)).length⟩

def tableSizes (s : Store) : List (String × Nat) := [
  ("upload_batches", s.batches.size), ("source_units", s.units.size), ("work", s.works.size),
  ("scans", s.scans.size), ("diagnostics", s.diagnostics.size), ("literals", s.literals.size)]

end AsnLexis.Store
