import AsnLexis.Store.Query
import AsnLexis.Text.Integer

/-! The written form of a store, for keeping it in a file: lines of cells. The first line names the
form and the version of the tables; then each table has a line with its last id and its number of
rows, and a line for each row. -/

namespace AsnLexis

namespace Cell

def dumped : Cell → Bytes
  | .null => utf8 "-"
  | .integer n => utf8 "#" ++ Numeral.signed n
  | .decimal t | .text t | .blob t => utf8 "'" ++ t.flatMap fun b => Numeral.hex 2 b.toNat

def ofHex? : Bytes → Option Bytes
  | [] => some []
  | a :: b :: rest =>
    match Integer.digit? a, Integer.digit? b, ofHex? rest with
    | some high, some low, some bytes => some (UInt8.ofNat (high * 16 + low) :: bytes)
    | _, _, _ => none
  | [_] => none

def ofDumped? : Bytes → Option Cell
  | [0x2D] => some .null
  | 0x23 :: digits => (Integer.read digits).toOption.map Cell.integer
  | 0x27 :: digits => (ofHex? digits).map Cell.text
  | _ => none

def text? : Cell → Option (Option Bytes)
  | .null => some none
  | .text t => some (some t)
  | _ => none

end Cell

def Span.ofNumbers (start stop line column : Int) : Span :=
  ⟨start.toNat, stop.toNat, line.toNat, column.toNat⟩

def Batch.ofCells? : List Cell → Option Batch
  | [.integer id, .text label, createdBy, .text createdAt] =>
    createdBy.text?.map fun createdBy => ⟨id, label, createdBy, createdAt⟩
  | _ => none

def SourceUnit.ofCells? : List Cell → Option SourceUnit
  | [.integer id, .null, .text name, .text digest, .integer size, .text path, .text createdAt] =>
    some ⟨id, none, name, digest, size, path, createdAt⟩
  | [.integer id, .integer batch, .text name, .text digest, .integer size, .text path,
      .text createdAt] =>
    some ⟨id, some batch, name, digest, size, path, createdAt⟩
  | _ => none

def Work.ofCells? : List Cell → Option Work
  | [.integer id, .integer unit, .text stage, .text status, .integer attempt, .text availableAt,
      lockedBy, lockedAt, startedAt, finishedAt, errorCode, errorMessage] => do
    let status ← Status.ofText? status
    return { id, unit, stage, status, attempt, availableAt,
             lockedBy := ← lockedBy.text?, lockedAt := ← lockedAt.text?,
             startedAt := ← startedAt.text?, finishedAt := ← finishedAt.text?,
             errorCode := ← errorCode.text?, errorMessage := ← errorMessage.text? }
  | _ => none

def Scan.ofCells? : List Cell → Option Scan
  | [.integer id, .integer unit, .integer bom, .integer tokens, .integer diagnostics,
      .integer literals, fatalCode, fatalMessage, .text startedAt, .text finishedAt] => do
    return { id, unit, bom := bom != 0, tokens, diagnostics, literals,
             fatalCode := ← fatalCode.text?, fatalMessage := ← fatalMessage.text?,
             startedAt, finishedAt }
  | _ => none

def ScanDiagnostic.ofCells? : List Cell → Option ScanDiagnostic
  | [.integer id, .integer scan, .integer seq, .text code, .text severity, .text message,
      .integer fatal, .integer start, .integer stop, .integer line, .integer column] =>
    some { id, scan, seq, code, severity, message, fatal := fatal != 0,
           span := .ofNumbers start stop line column }
  | _ => none

def ScanLiteral.ofCells? : List Cell → Option ScanLiteral
  | [.integer id, .integer scan, .integer handle, .text raw, .text value, oidIri, .integer start,
      .integer stop, .integer line, .integer column] =>
    oidIri.text?.map fun oidIri =>
      { id, scan, handle, raw, value, oidIri, span := .ofNumbers start stop line column }
  | _ => none

def Table.dumped {α : Type} (t : Table α) (cells : α → List Cell) : List (List Cell) :=
  [.integer t.last, .integer t.size] :: t.rows.map cells

def Table.ofDumped? {α : Type} (row? : List Cell → Option α) :
    List (List Cell) → Option (Table α × List (List Cell))
  | [.integer last, .integer size] :: lines =>
    ((lines.take size.toNat).mapM row?).map fun rows => (⟨rows, last⟩, lines.drop size.toNat)
  | _ => none

namespace Store

def dumpName : Bytes := utf8 "asnlexis store"

def dumpLines (s : Store) : List (List Cell) :=
  [.text dumpName, .integer s.version] :: s.batches.dumped Batch.cells
    ++ s.units.dumped SourceUnit.cells ++ s.works.dumped Work.cells ++ s.scans.dumped Scan.cells
    ++ s.diagnostics.dumped ScanDiagnostic.cells ++ s.literals.dumped ScanLiteral.cells

def dump (s : Store) : Bytes :=
  s.dumpLines.flatMap fun cells => Layout.line (Layout.join (utf8 " ") (cells.map Cell.dumped))

def ofDumpLines? : List (List Cell) → Option Store
  | [.text name, .integer version] :: lines => do
    if name != dumpName then none
    else
      let (batches, lines) ← Table.ofDumped? Batch.ofCells? lines
      let (units, lines) ← Table.ofDumped? SourceUnit.ofCells? lines
      let (works, lines) ← Table.ofDumped? Work.ofCells? lines
      let (scans, lines) ← Table.ofDumped? Scan.ofCells? lines
      let (diagnostics, lines) ← Table.ofDumped? ScanDiagnostic.ofCells? lines
      let (literals, _) ← Table.ofDumped? ScanLiteral.ofCells? lines
      return { version, batches, units, works, scans, diagnostics, literals }
  | _ => none

def ofDump? (text : Bytes) : Option Store :=
  let lines := (Layout.split 0x0A text).filter (!·.isEmpty)
  (lines.mapM fun line => (Layout.split 0x20 line).mapM Cell.ofDumped?).bind ofDumpLines?

end Store

end AsnLexis
