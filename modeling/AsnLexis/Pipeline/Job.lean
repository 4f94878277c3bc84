import AsnLexis.Pipeline.Ingest
import AsnLexis.Tokenize

/-! Jobs. A worker claims a job, performs it and concludes it; these are the three steps that other
workers' steps can come between. -/

namespace AsnLexis

/-- How a worker scans: the identifier profile, and a name in the place of the unit's own. -/
structure ScanSettings where
  profile : Profile := .unicode
  rename : Option Bytes := none

def ScanSettings.forUnit (s : ScanSettings) (name : Bytes) : Except Error Settings :=
  let own : Settings := { name, profile := s.profile }
  match s.rename with
  | none => .ok own
  | some name => own.rename name

def ScanSettings.tokenize (s : ScanSettings) (name content : Bytes) : Except Error Tokenized :=
  (s.forUnit name).map fun settings => AsnLexis.tokenize name settings content

namespace Tokenized

def numbered (seq : Nat) : List Diagnostic → List Store.NewDiagnostic
  | [] => []
  | d :: rest =>
    ⟨seq, d.code, d.severity.lowerName, d.message, d.fatal, d.span⟩ :: numbered (seq + 1) rest

def iriText (raw : Bytes) : Bytes :=
  match OidIri.parse (Literal.contents raw) with
  | .ok iri => iri.text
  | .error _ => []

/-- The literals as they are stored. Nothing is known of their types here, so each is resolved as a
character string. -/
def resolveAll (table : LiteralTable) : List Token → Except Error (List Store.NewLiteral)
  | [] => .ok []
  | t :: rest =>
    if t.isLiteral then
      match table.resolveToken (some t) false with
      | (.error e, _) => .error (.wrap (utf8 "resolve literal " ++ Numeral.decimal t.handle) e)
      | (.ok value, table) =>
        (resolveAll table rest).map
          (⟨t.handle, t.text, value.meaning.text, iriText t.text, value.span⟩ :: ·)
    else resolveAll table rest

def record (r : Tokenized) (unit : RowId) (now : Instant) : Except Error Store.NewScan :=
  (resolveAll r.literals r.tokens).map fun literals =>
    { unit
      bom := (r.source.map Source.bom).getD false
      tokens := r.tokens.length
      diagnosticCount := r.diagnostics.length
      literalCount := r.literals.size
      fatalCode := (r.fatal.map fun e => utf8 e.code.name).getD []
      fatalMessage := (r.fatal.map Error.message).getD []
      startedAt := now
      finishedAt := now
      diagnostics := numbered 1 r.diagnostics
      literals }

end Tokenized

structure ScanOutcome where
  scan : Option (RowId × Store.NewScan)
  failure : Option Error
  log : List LogRecord

namespace Workspace

/-- Stores the scan of a unit. A scan that stopped early is stored too, and is an error. -/
def storeScan (w : Workspace) (unit : SourceUnit) (r : Tokenized) (now : Instant) :
    ScanOutcome × Workspace :=
  match r.record unit.id now with
  | .error e => (⟨none, some e, r.log⟩, w)
  | .ok scan =>
    match w.onStore (·.insertScan scan) with
    | (.error e, w) => (⟨none, some (databaseError "insert scan" e), r.log⟩, w)
    | (.ok id, w) => (⟨some (id, scan), r.fatal.map (.scanFatal unit.name id), r.log⟩, w)

def scanUnit (w : Workspace) (settings : ScanSettings) (now : Instant) (unit : SourceUnit) :
    ScanOutcome × Workspace :=
  let place := w.placeOf unit.path
  match w.files.read place with
  | .error e => (⟨none, some (.file (utf8 "read") place e), []⟩, w)
  | .ok content =>
    match settings.tokenize unit.name content with
    | .error e => (⟨none, some e, []⟩, w)
    | .ok r => w.storeScan unit r now

structure JobFailure where
  code : Bytes
  message : Bytes
  error : Error

def JobFailure.ofError (e : Error) : JobFailure := ⟨utf8 e.jobCode, e.message, e⟩

structure JobOutcome where
  failure : Option JobFailure
  log : List LogRecord

def claim (w : Workspace) (stage worker : Bytes) (now : Instant) :
    Except Error (Option Work) × Workspace :=
  w.onStore (·.claimWork stage worker now)

def databaseCode : Bytes := utf8 "DATABASE"

def perform (w : Workspace) (stage : Bytes) (settings : ScanSettings) (now : Instant) (job : Work) :
    JobOutcome × Workspace :=
  match w.link.unit? job.unit with
  | .error e =>
    let error := .wrap (utf8 "get source unit") e
    (⟨some ⟨databaseCode, error.message, error⟩, []⟩, w)
  | .ok none =>
    let error := .ofText (utf8 "source unit " ++ Numeral.signed job.unit ++ utf8 " not found")
    (⟨some ⟨databaseCode, utf8 "source unit not found", error⟩, []⟩, w)
  | .ok (some unit) =>
    if stage = scanStage then
      let (outcome, w) := w.scanUnit settings now unit
      (⟨outcome.failure.map .ofError, outcome.log⟩, w)
    else (⟨some (.ofError (.ofText (utf8 "unknown stage: " ++ stage))), []⟩, w)

/-- Finishes a job as ok or failed. The error of a failed job is not hidden by one in finishing
it. -/
def conclude (w : Workspace) (now : Instant) (job : Work) :
    Option JobFailure → Option Error × Workspace
  | some f =>
    let (_, w) := w.onStore (·.finishJob job.id (some (f.code, f.message)) now)
    (some f.error, w)
  | none =>
    match w.onStore (·.finishJob job.id none now) with
    | (.error e, w) => (some (.wrap (utf8 "finish job") e), w)
    | (.ok (), w) => (none, w)

structure Round where
  processed : Bool
  failure : Option Error
  log : List LogRecord

def processJob (w : Workspace) (stage worker : Bytes) (settings : ScanSettings) (now : Instant) :
    Round × Workspace :=
  match w.claim stage worker now with
  | (.error e, w) => (⟨false, some (.wrap (utf8 "claim job") e), []⟩, w)
  | (.ok none, w) => (⟨false, none, []⟩, w)
  | (.ok (some job), w) =>
    let (outcome, w) := w.perform stage settings now job
    let (failure, w) := w.conclude now job outcome.failure
    (⟨true, failure, outcome.log⟩, w)

end Workspace

end AsnLexis
