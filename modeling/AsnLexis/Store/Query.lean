import AsnLexis.Store.Basic
import AsnLexis.Store.Statement

/-! Running statements on a store. -/

namespace AsnLexis

open Statement (Flaw Selection)

def Cell.ofText (t : Option Bytes) : Cell := (t.map Cell.text).getD .null

def Cell.ofFlag (flag : Bool) : Cell := .integer (if flag then 1 else 0)

def Span.cells (s : Span) : List Cell :=
  [.integer s.start, .integer s.stop, .integer s.line, .integer s.column]

def Batch.cells (b : Batch) : List Cell :=
  [.integer b.id, .text b.label, .ofText b.createdBy, .text b.createdAt]

def SourceUnit.cells (u : SourceUnit) : List Cell :=
  [.integer u.id, (u.batch.map Cell.integer).getD .null, .text u.name, .text u.digest,
    .integer u.size, .text u.path, .text u.createdAt]

def Work.cells (w : Work) : List Cell :=
  [.integer w.id, .integer w.unit, .text w.stage, .text (utf8 w.status.name), .integer w.attempt,
    .text w.availableAt, .ofText w.lockedBy, .ofText w.lockedAt, .ofText w.startedAt,
    .ofText w.finishedAt, .ofText w.errorCode, .ofText w.errorMessage]

def Scan.cells (s : Scan) : List Cell :=
  [.integer s.id, .integer s.unit, .ofFlag s.bom, .integer s.tokens, .integer s.diagnostics,
    .integer s.literals, .ofText s.fatalCode, .ofText s.fatalMessage, .text s.startedAt,
    .text s.finishedAt]

def ScanDiagnostic.cells (d : ScanDiagnostic) : List Cell :=
  [.integer d.id, .integer d.scan, .integer d.seq, .text d.code, .text d.severity, .text d.message,
    .ofFlag d.fatal] ++ d.span.cells

def ScanLiteral.cells (l : ScanLiteral) : List Cell :=
  [.integer l.id, .integer l.scan, .integer l.handle, .text l.raw, .text l.value, .ofText l.oidIri]
    ++ l.span.cells

structure Grid where
  columns : List Bytes
  rows : List (List Cell)
  deriving DecidableEq, Repr

namespace Store

def grid? (s : Store) (table : Bytes) : Option Grid :=
  let named (columns : List String) (rows : List (List Cell)) : Option Grid :=
    some ⟨columns.map utf8, rows⟩
  if table == utf8 "upload_batches" then
    named ["id", "label", "created_by", "created_at"] (s.batches.rows.map Batch.cells)
  else if table == utf8 "source_units" then
    named ["id", "batch_id", "name", "digest", "size", "fs_path", "created_at"]
      (s.units.rows.map SourceUnit.cells)
  else if table == utf8 "work" then
    named ["id", "source_unit_id", "stage", "status", "attempt", "available_at", "locked_by",
      "locked_at", "started_at", "finished_at", "error_code", "error_message"]
      (s.works.rows.map Work.cells)
  else if table == utf8 "scans" then
    named ["id", "source_unit_id", "has_bom", "token_count", "diagnostic_count", "literal_count",
      "fatal_code", "fatal_message", "started_at", "finished_at"] (s.scans.rows.map Scan.cells)
  else if table == utf8 "diagnostics" then
    named ["id", "scan_id", "seq", "code", "severity", "message", "fatal", "start_offset",
      "end_offset", "line", "col"] (s.diagnostics.rows.map ScanDiagnostic.cells)
  else if table == utf8 "literals" then
    named ["id", "scan_id", "handle", "raw", "value", "oid_iri", "start_offset", "end_offset",
      "line", "col"] (s.literals.rows.map ScanLiteral.cells)
  else none

/-- Takes a batch away; its units stay and belong to none. -/
def deleteBatch (s : Store) (id : RowId) : Store :=
  { s with
    batches := s.batches.filter (·.id != id)
    units := s.units.map fun u => if u.batch = some id then { u with batch := none } else u }

def deleteDiagnostic (s : Store) (id : RowId) : Store :=
  { s with diagnostics := s.diagnostics.filter (·.id != id) }

def deleteLiteral (s : Store) (id : RowId) : Store :=
  { s with literals := s.literals.filter (·.id != id) }

def deleteWork (s : Store) (id : RowId) : Store := { s with works := s.works.filter (·.id != id) }

def deleteScans (s : Store) (gone : Scan → Bool) : Store :=
  let ids := (s.scans.rows.filter gone).map Scan.id
  { s with
    scans := s.scans.filter (!gone ·)
    diagnostics := s.diagnostics.filter (!ids.contains ·.scan)
    literals := s.literals.filter (!ids.contains ·.scan) }

def deleteUnit (s : Store) (id : RowId) : Store :=
  { s.deleteScans (·.unit == id) with
    units := s.units.filter (·.id != id)
    works := s.works.filter (·.unit != id) }

def delete? (s : Store) (table : Bytes) (id : RowId) : Option Store :=
  if table == utf8 "upload_batches" then some (s.deleteBatch id)
  else if table == utf8 "source_units" then some (s.deleteUnit id)
  else if table == utf8 "work" then some (s.deleteWork id)
  else if table == utf8 "scans" then some (s.deleteScans (·.id == id))
  else if table == utf8 "diagnostics" then some (s.deleteDiagnostic id)
  else if table == utf8 "literals" then some (s.deleteLiteral id)
  else none

def setBatch (column : Bytes) (text : Bytes) : Option (Batch → Batch) :=
  if column == utf8 "label" then some fun b => { b with label := text }
  else if column == utf8 "created_by" then some fun b => { b with createdBy := some text }
  else if column == utf8 "created_at" then some fun b => { b with createdAt := text }
  else none

def setUnit (column : Bytes) (text : Bytes) : Option (SourceUnit → SourceUnit) :=
  if column == utf8 "name" then some fun u => { u with name := text }
  else if column == utf8 "fs_path" then some fun u => { u with path := text }
  else if column == utf8 "created_at" then some fun u => { u with createdAt := text }
  else none

def setWork (column : Bytes) (text : Bytes) : Option (Work → Work) :=
  if column == utf8 "stage" then some fun w => { w with stage := text }
  else if column == utf8 "available_at" then some fun w => { w with availableAt := text }
  else if column == utf8 "locked_by" then some fun w => { w with lockedBy := some text }
  else if column == utf8 "locked_at" then some fun w => { w with lockedAt := some text }
  else if column == utf8 "started_at" then some fun w => { w with startedAt := some text }
  else if column == utf8 "finished_at" then some fun w => { w with finishedAt := some text }
  else if column == utf8 "error_code" then some fun w => { w with errorCode := some text }
  else if column == utf8 "error_message" then some fun w => { w with errorMessage := some text }
  else none

def change (s : Store) (table column text : Bytes) : Except Flaw Store :=
  let withColumn {α : Type} (f : Option α) (apply : α → Store) : Except Flaw Store :=
    match f with
    | some f => .ok (apply f)
    | none => .error (.noColumn column)
  if table == utf8 "upload_batches" then
    withColumn (setBatch column text) fun f => { s with batches := s.batches.map f }
  else if table == utf8 "source_units" then
    withColumn (setUnit column text) fun f => { s with units := s.units.map f }
  else if table == utf8 "work" then
    withColumn (setWork column text) fun f => { s with works := s.works.map f }
  else if (s.grid? table).isSome then .error (.noColumn column)
  else .error (.noTable table)

end Store

structure QueryResult where
  columns : List Bytes := []
  rows : List (List Bytes) := []
  deriving DecidableEq, Repr

def Grid.select (g : Grid) : Selection → Except Flaw QueryResult
  | .all => .ok ⟨g.columns, g.rows.map (·.map Cell.shown)⟩
  | .count => .ok ⟨[utf8 "COUNT(*)"], [[Numeral.decimal g.rows.length]]⟩
  | .columns names => do
    let indices ← names.mapM fun name =>
      match g.columns.findIdx? (· == name) with
      | some i => .ok i
      | none => .error (.noColumn name)
    .ok ⟨names, g.rows.map fun row => indices.map fun i => (row.getD i .null).shown⟩

namespace Store

def runStatement (s : Store) : Statement → Except Flaw (QueryResult × Store)
  | .nothing => .ok ({}, s)
  | .constants columns kept =>
    .ok (⟨columns.map Prod.fst, if kept then [columns.map fun c => c.2.shown] else []⟩, s)
  | .select selection table =>
    match s.grid? table with
    | none => .error (.noTable table)
    | some grid => (grid.select selection).map (·, s)
  | .version => .ok (⟨[utf8 "user_version"], [[Numeral.signed s.version]]⟩, s)
  | .setVersion n => .ok ({}, { s with version := n })
  | .delete table id =>
    match s.delete? table id with
    | none => .error (.noTable table)
    | some s => .ok ({}, s)
  | .update table changes =>
    (changes.foldlM (fun (s : Store) (column, text) => s.change table column text) s).map ({}, ·)

def query (s : Store) (text : Bytes) : Except Flaw (QueryResult × Store) :=
  match Statement.parse text with
  | .error flaw => .error flaw
  | .ok statement => s.runStatement statement

end Store

end AsnLexis
