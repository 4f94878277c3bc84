import AsnLexis.Error
import AsnLexis.Instant

/-! The store: batches of source units, the jobs queued for them, and the scans that came out of the
jobs. Rows are kept in the order of their ids; an id is never given out twice. -/

namespace AsnLexis

/-- Number of a row. The first row of a table has number 1. -/
abbrev RowId := Int

/-- Rows in the order of their ids, and the last id given out. -/
structure Table (α : Type) where
  rows : List α := []
  last : RowId := 0
  deriving DecidableEq, Repr

namespace Table

variable {α : Type}

def size (t : Table α) : Nat := t.rows.length

def next (t : Table α) : RowId := t.last + 1

def push (t : Table α) (row : RowId → α) : Table α := ⟨t.rows ++ [row t.next], t.next⟩

def map (t : Table α) (f : α → α) : Table α := { t with rows := t.rows.map f }

def filter (t : Table α) (p : α → Bool) : Table α := { t with rows := t.rows.filter p }

end Table

structure Batch where
  id : RowId
  label : Bytes
  createdBy : Option Bytes
  createdAt : Stamp
  deriving DecidableEq, Repr

/-- A source file. There is one unit for each content, whatever the names it came under. -/
structure SourceUnit where
  id : RowId
  batch : Option RowId
  name : Bytes
  digest : Bytes
  size : Int
  path : Bytes
  createdAt : Stamp
  deriving DecidableEq, Repr

inductive Status where
  | queued
  | running
  | ok
  | failed
  deriving DecidableEq, Repr

namespace Status

def name : Status → String
  | queued => "queued"
  | running => "running"
  | ok => "ok"
  | failed => "failed"

def all : List Status := [queued, running, ok, failed]

def ofText? (text : Bytes) : Option Status := all.find? (utf8 ·.name == text)

end Status

structure Work where
  id : RowId
  unit : RowId
  stage : Bytes
  status : Status
  attempt : Int
  availableAt : Stamp
  lockedBy : Option Bytes := none
  lockedAt : Option Stamp := none
  startedAt : Option Stamp := none
  finishedAt : Option Stamp := none
  errorCode : Option Bytes := none
  errorMessage : Option Bytes := none
  deriving DecidableEq, Repr

structure Scan where
  id : RowId
  unit : RowId
  bom : Bool
  tokens : Int
  diagnostics : Int
  literals : Int
  fatalCode : Option Bytes
  fatalMessage : Option Bytes
  startedAt : Stamp
  finishedAt : Stamp
  deriving DecidableEq, Repr

/-- A diagnostic of a scan; `seq` counts them from 1 in the order of their report. -/
structure ScanDiagnostic where
  id : RowId
  scan : RowId
  seq : Int
  code : Bytes
  severity : Bytes
  message : Bytes
  fatal : Bool
  span : Span
  deriving DecidableEq, Repr

/-- A literal of a scan with its character string value and, when its contents are one, its
OID-IRI. -/
structure ScanLiteral where
  id : RowId
  scan : RowId
  handle : Int
  raw : Bytes
  value : Bytes
  oidIri : Option Bytes
  span : Span
  deriving DecidableEq, Repr

structure Store where
  version : Int := 1
  batches : Table Batch := {}
  units : Table SourceUnit := {}
  works : Table Work := {}
  scans : Table Scan := {}
  diagnostics : Table ScanDiagnostic := {}
  literals : Table ScanLiteral := {}
  deriving DecidableEq, Repr

def present (text : Bytes) : Option Bytes := if text.isEmpty then none else some text

inductive Constraint where
  | uniqueDigest
  | uniqueSeq
  | uniqueHandle
  | reference
  | status
  deriving DecidableEq, Repr

namespace Constraint

def unique (columns : String) : Bytes :=
  utf8 "UNIQUE constraint failed: " ++ utf8 columns ++ utf8 " (2067)"

def message : Constraint → Bytes
  | uniqueDigest => utf8 "constraint failed: " ++ unique "source_units.digest"
  | uniqueSeq => utf8 "constraint failed: " ++ unique "diagnostics.scan_id, diagnostics.seq"
  | uniqueHandle => utf8 "constraint failed: " ++ unique "literals.scan_id, literals.handle"
  | reference => utf8 "constraint failed: FOREIGN KEY constraint failed (787)"
  | status =>
    utf8 "constraint failed: CHECK constraint failed: "
      ++ utf8 "status IN ('queued', 'running', 'ok', 'failed') (275)"

end Constraint

namespace Store

def batch? (s : Store) (id : RowId) : Option Batch := s.batches.rows.find? (·.id == id)

def unit? (s : Store) (id : RowId) : Option SourceUnit := s.units.rows.find? (·.id == id)

def unitByDigest? (s : Store) (digest : Bytes) : Option SourceUnit :=
  s.units.rows.find? (·.digest == digest)

def work? (s : Store) (id : RowId) : Option Work := s.works.rows.find? (·.id == id)

end Store

end AsnLexis
