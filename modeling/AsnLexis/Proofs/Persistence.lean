import AsnLexis.Proofs.Diagnostics
import AsnLexis.Proofs.Ingest
import AsnLexis.Proofs.OidIri
import Mathlib

/-! From a file that is handed in to the scan that is stored of it. The scan, its diagnostics and its
literals say what tokenizing the file says, and the job ends as the scan did. -/

namespace AsnLexis

structure Tokenized.Matches (a b : Tokenized) : Prop where
  source : a.source = b.source
  tokens : a.tokens = b.tokens
  diagnostics : a.diagnostics = b.diagnostics
  literals : a.literals = b.literals
  fatal : a.fatal = b.fatal

theorem Tokenized.Matches.newScan {a b : Tokenized} (alike : a.Matches b) (unit : RowId)
    (now : Instant) : a.newScan unit now = b.newScan unit now := by
  rw [Tokenized.newScan, alike.source, alike.tokens, alike.diagnostics, alike.literals,
    alike.fatal, Tokenized.newScan]

theorem source_tokenize (name : Bytes) (settings : Settings) {input : Bytes} {source : Source}
    (decoded : Source.read input = .ok source) :
    (tokenize name settings input).source = some source := by
  obtain ⟨segments, ending, cut⟩ := exists_segmented settings.profile source.chars
  obtain ⟨profile, kept, _, _⟩ := Lexer.start_fields settings source
  have gives := cut.gives (Lexer.reads_start settings source) rfl profile
  rw [tokenize, decoded]
  exact congrArg some (gives.source.trans kept)

theorem tokenize_matches (first second : Bytes) (own other : Settings)
    (profile : own.profile = other.profile) (input : Bytes) :
    (tokenize first own input).Matches (tokenize second other input) := by
  cases decoded : Source.read input with
  | error e =>
      rw [tokenize_malformed first own decoded, tokenize_malformed second other decoded]
      exact ⟨rfl, rfl, rfl, rfl, rfl⟩
  | ok source =>
      obtain ⟨segments, ending, cut⟩ := exists_segmented own.profile source.chars
      have left := cut.outlined first decoded
      have right := (profile ▸ cut).outlined second decoded
      constructor
      · rw [source_tokenize first own decoded, source_tokenize second other decoded]
      · rw [left.tokens, right.tokens]
      · rw [left.diagnostics, right.diagnostics]
      · have entries := Array.toList_inj.1 (left.literals.trans right.literals.symm)
        exact congrArg LiteralTable.mk entries
      · rw [left.fatal, right.fatal]

/-- The error that stops a scan is reported last, and is the only one that is fatal. -/
inductive Diagnostic.Stops : List Diagnostic → Option Error → Prop
  | sound {ds : List Diagnostic} (mild : ∀ d ∈ ds, d.fatal = false) : Stops ds none
  | stopped {front : List Diagnostic} {last : Diagnostic} {e : Error}
      (mild : ∀ d ∈ front, d.fatal = false) (fatal : last.fatal = true)
      (code : last.code = utf8 e.code.name) : Stops (front ++ [last]) (some e)

theorem stops_tokenize (name : Bytes) (settings : Settings) (input : Bytes) :
    Diagnostic.Stops (tokenize name settings input).diagnostics
      (tokenize name settings input).fatal := by
  cases decoded : Source.read input with
  | error m =>
      rw [tokenize_malformed name settings decoded]
      exact @Diagnostic.Stops.stopped [] _ _ (fun d member => by cases member) rfl rfl
  | ok source =>
      have encoded := (Source.read_eq_ok_iff.1 decoded).2
      obtain ⟨segments, ending, cut⟩ := exists_segmented settings.profile source.chars
      cases cut.fatalLast encoded (cut.outlined name decoded) with
      | sound none mild =>
          rw [none]
          exact .sound mild
      | stopped e front d fatal last marked mild code _ =>
          rw [fatal, last]
          exact .stopped mild marked code

theorem last_of_fatal {name : Bytes} {settings : Settings} {input : Bytes} {e : Error}
    (stopped : (tokenize name settings input).fatal = some e) :
    ∃ last, (tokenize name settings input).diagnostics.getLast? = some last ∧
      last.code = utf8 e.code.name ∧ last.fatal = true := by
  have stops := stops_tokenize name settings input
  rw [stopped] at stops
  generalize (tokenize name settings input).diagnostics = ds at stops ⊢
  cases stops with
  | stopped mild fatal code => exact ⟨_, List.getLast?_concat, code, fatal⟩

theorem Code.name_ne_nil (code : Code) : utf8 code.name ≠ [] := by cases code <;> decide

theorem message_of_fatal {name : Bytes} {settings : Settings} {input : Bytes} {e : Error}
    (stopped : (tokenize name settings input).fatal = some e) : e.message ≠ [] := by
  have kinds : (∃ lexical, e = .lexical lexical) ∨ ∃ malformed, e = .encoding malformed := by
    cases decoded : Source.read input with
    | error m =>
        rw [tokenize_malformed name settings decoded] at stopped
        cases stopped
        exact .inr ⟨m, rfl⟩
    | ok source =>
        rw [tokenize, decoded] at stopped
        simp only [Tokenized.ofScan] at stopped
        split at stopped <;> cases stopped
        exact .inl ⟨_, rfl⟩
  have colon : utf8 ": " ≠ [] := by decide
  rcases kinds with ⟨lexical, rfl⟩ | ⟨malformed, rfl⟩
  · simp [Error.message, LexError.message, Span.located, colon]
  · simp [Error.message, encodingMessage, colon]

structure ScanDiagnostic.Keeps (row : ScanDiagnostic) (d : Diagnostic) (seq : Nat) : Prop where
  seq : row.seq = seq
  code : row.code = d.code
  severity : row.severity = d.severity.lowerName
  message : row.message = d.message
  fatal : row.fatal = d.fatal
  span : row.span = d.span

structure ScanLiteral.Keeps (row : ScanLiteral) (t : Token) : Prop where
  handle : row.handle = t.handle
  raw : row.raw = t.text
  value : row.value = Literal.characterString row.raw
  span : row.span = t.span
  iri : row.oidIri.isSome ↔ ∃ iri, OidIri.parse (Literal.contents row.raw) = .ok iri
  iriText : ∀ text, row.oidIri = some text → text = row.value

structure Scan.Keeps (scan : Scan) (diagnostics : List ScanDiagnostic) (literals : List ScanLiteral)
    (r : Tokenized) : Prop where
  bom : scan.bom = (r.source.map Source.bom).getD false
  tokenCount : scan.tokens = r.tokens.length
  diagnosticCount : scan.diagnostics = r.diagnostics.length
  literalCount : scan.literals = r.literals.size
  fatalCode : scan.fatalCode = r.fatal.map fun e => utf8 e.code.name
  fatalMessage : scan.fatalMessage = r.fatal.map Error.message
  eachDiagnostic : List.Forall₂ (fun row (d, seq) => row.Keeps d seq) diagnostics
    (r.diagnostics.zipIdx 1)
  eachLiteral : List.Forall₂ ScanLiteral.Keeps literals (literalsOf r.tokens)
  handles : literals.map ScanLiteral.handle = (List.range' 1 r.literals.size).map (↑·)

theorem Token.keeps_literalRow (t : Token) (scan id : RowId) :
    (Store.literalRow scan t.literalRow id).Keeps t where
  handle := rfl
  raw := rfl
  value := rfl
  span := rfl
  iri := by
    simp only [Store.literalRow, Token.literalRow, present_iriText]
    cases OidIri.parse (Literal.contents t.text) <;> simp [Except.toOption]
  iriText text := by
    simp only [Store.literalRow, Token.literalRow, present_iriText]
    split_ifs <;> simp [eq_comm]

theorem present_getD {text : Option Bytes} (told : ∀ t, text = some t → t ≠ []) :
    present (text.getD []) = text := by
  cases text with
  | none => rfl
  | some t =>
      have told := told t rfl
      simp [present, told]

theorem Store.Keyed.keeps {s : Store} (keyed : s.Keyed) (name : Bytes) (settings : Settings)
    (input : Bytes) (unit : RowId) (now : Instant) :
    let r := tokenize name settings input
    let after := s.withScan (r.newScan unit now)
    (scanRow (r.newScan unit now) s.scans.next).Keeps (after.diagnosticsOf s.scans.next)
      (after.literalsOf s.scans.next) r := by
  intro r after
  have ordered : (r.newScan unit now).Ordered := ordered_newScan name settings input unit now
  refine ⟨rfl, rfl, rfl, rfl, present_getD ?_, present_getD ?_, ?_, ?_, ?_⟩
  · intro text told
    obtain ⟨e, _, rfl⟩ := Option.map_eq_some_iff.1 told
    exact Code.name_ne_nil e.code
  · intro text told
    obtain ⟨e, stopped, rfl⟩ := Option.map_eq_some_iff.1 told
    exact message_of_fatal stopped
  · rw [keyed.diagnosticsOf_self ordered, Tokenized.newScan, Tokenized.numbered_eq, List.map_map]
    exact Table.forall₂_rowsFrom (fun _ _ => ⟨rfl, rfl, rfl, rfl, rfl, rfl⟩) _ _
  · rw [keyed.literalsOf_self ordered, Tokenized.newScan, List.map_map]
    exact Table.forall₂_rowsFrom (fun (t : Token) id => t.keeps_literalRow _ id) _ _
  · rw [keyed.literalsOf_self ordered, Tokenized.newScan, List.map_map, ← handles_tokenize,
      List.map_map]
    exact Table.map_rowsFrom (fun _ _ => by rfl) _ _

/-- A job ends as its scan did: ok, or failed with the code of what stopped the scan. The error
that the worker returns names the scan. -/
inductive Work.EndsAs (row : Work) (scan : Scan) (returned : Option Error) (r : Tokenized) : Prop
  | ok (sound : r.fatal = none) (status : row.status = .ok) (code : row.errorCode = none)
      (silent : returned = none)
  | failed (e : Error) (last : Diagnostic) (name : Bytes) (stopped : r.fatal = some e)
      (status : row.status = .failed) (scanCode : row.errorCode = scan.fatalCode)
      (final : r.diagnostics.getLast? = some last) (lastCode : row.errorCode = some last.code)
      (error : returned = some (.scanFatal name scan.id e))
      (jobCode : row.errorCode = some (utf8 (Error.scanFatal name scan.id e).jobCode))

namespace Workspace

def firstStore (now : Instant) (label createdBy : Bytes) (u : Store.NewUnit) : Store :=
  ((({} : Store).insertBatch label createdBy now).2.withUnit u).withWork 1 now

theorem ingestBatch_empty {w kept : Workspace} (now : Instant) (label createdBy : Bytes)
    (upload : Upload)
    (copied : w.keepCopy (Upload.storedPath 1 (Digest.hex upload.content) upload.name)
      upload.content = (.ok (), kept)) :
    (w.withStore {}).ingestBatch now label createdBy [upload]
      = (⟨1, [⟨1, 1, Digest.hex upload.content, false⟩], none⟩,
          kept.withStore (firstStore now label createdBy (newUnit now 1 upload))) := by
  have inserted : (w.withStore {}).onStore (·.insertBatch label createdBy now)
      = (.ok 1, w.withStore (({} : Store).insertBatch label createdBy now).2) := rfl
  have ingested := ingestFile_withStore (s := (({} : Store).insertBatch label createdBy now).2) now
    rfl rfl copied
  simp only [ingestBatch, inserted, ingestAll, ingested]
  rfl

section First

variable (w : Workspace) (u : Store.NewUnit) {ingestedAt now : Instant}
  (label createdBy worker : Bytes)

theorem keyed_firstStore : (firstStore ingestedAt label createdBy u).Keyed where
  works := (Table.Numbered.of_nil rfl).push rfl
  scans := Table.Numbered.of_nil rfl
  diagnostics d member := by cases member
  literals l member := by cases member

theorem nextWork?_firstStore (due : Bytes.le ingestedAt.text now.text) :
    (firstStore ingestedAt label createdBy u).nextWork? scanStage now.text
      = some (Work.fresh 1 scanStage ingestedAt 1) := by
  have claimable : Store.isClaimable scanStage now.text (Work.fresh 1 scanStage ingestedAt 1) :=
    Store.isClaimable_iff.2 ⟨rfl, rfl, due⟩
  have rows : (firstStore ingestedAt label createdBy u).works.rows
      = [Work.fresh 1 scanStage ingestedAt 1] := rfl
  rw [Store.nextWork?, rows, List.filter_singleton, claimable]
  rfl

variable {w u} {content : Bytes} {profile : Profile}

theorem reading_firstStore (readable : w.files.read (w.placeOf u.path) = .ok content) :
    (w.withStore (firstStore ingestedAt label createdBy u)).reading { profile } 1
      = .scanned (Store.unitRow u 1) (tokenize u.name ⟨u.name, profile⟩ content) := by
  have unit : (firstStore ingestedAt label createdBy u).unit? 1 = some (Store.unitRow u 1) := rfl
  have copy : (w.withStore (firstStore ingestedAt label createdBy u)).files.read
      ((w.withStore (firstStore ingestedAt label createdBy u)).placeOf (Store.unitRow u 1).path)
        = .ok content := readable
  simp only [reading, store_withStore, unit, copy]
  rfl

theorem processJob_firstStore (readable : w.files.read (w.placeOf u.path) = .ok content)
    (due : Bytes.le ingestedAt.text now.text) :
    let r := tokenize u.name ⟨u.name, profile⟩ content
    let failure := r.fatal.map fun e => JobFailure.ofError (.scanFatal u.name 1 e)
    (w.withStore (firstStore ingestedAt label createdBy u)).processJob scanStage worker { profile }
        now
      = (⟨true, failure.map JobFailure.error, r.log⟩,
          w.withStore (((firstStore ingestedAt label createdBy u).withScan (r.newScan 1 now)).updateWork
            1 (settled worker (failure.map JobFailure.kept) now))) := by
  intro r failure
  rw [processJob_withStore w (keyed_firstStore u label createdBy) worker { profile }
    (nextWork?_firstStore u label createdBy due)]
  rw [Work.fresh, reading_firstStore label createdBy readable]
  rfl

theorem scanned_firstStore (readable : w.files.read (w.placeOf u.path) = .ok content)
    (due : Bytes.le ingestedAt.text now.text) (profile : Profile) (name : Bytes) :
    let work := (w.withStore (firstStore ingestedAt label createdBy u)).processJob scanStage worker
      { profile } now
    let r := tokenize name ⟨name, profile⟩ content
    ∃ scan diagnostics literals row,
      work.1.processed ∧
      work.2.link.latestScan? 1 = .ok (some scan) ∧
      work.2.link.diagnosticsOf scan.id = .ok diagnostics ∧
      work.2.link.literalsOf scan.id = .ok literals ∧
      scan.Keeps diagnostics literals r ∧
      work.2.link.store.work? 1 = some row ∧
      row.EndsAs scan work.1.failure r := by
  intro work r
  have alike : (tokenize u.name ⟨u.name, profile⟩ content).Matches r :=
    tokenize_matches u.name name ⟨u.name, profile⟩ ⟨name, profile⟩ rfl content
  have worked : work = _ :=
    processJob_firstStore label createdBy worker readable due
  rw [alike.newScan, alike.fatal] at worked
  have keyed : (firstStore ingestedAt label createdBy u).Keyed := keyed_firstStore u label createdBy
  have keeps := keyed.keeps name ⟨name, profile⟩ content 1 now
  have row (failure : Option (Bytes × Bytes)) :
      (((firstStore ingestedAt label createdBy u).withScan (r.newScan 1 now)).updateWork 1
          (settled worker failure now)).work? 1
        = some (settled worker failure now (Work.fresh 1 scanStage ingestedAt 1)) := by
    have rows : (firstStore ingestedAt label createdBy u).works.rows
        = [Work.fresh 1 scanStage ingestedAt 1] := rfl
    simp [Store.work?, Store.updateWork, Store.withScan, Table.map, rows, Work.fresh]
  rw [worked]
  refine ⟨Store.scanRow (r.newScan 1 now) 1, _, _, _, rfl, rfl, rfl, rfl, keeps, row _, ?_⟩
  cases stopped : r.fatal with
  | none => exact .ok stopped rfl rfl rfl
  | some e =>
      obtain ⟨last, final, code, _⟩ := last_of_fatal stopped
      have told : present (utf8 e.code.name) = some (utf8 e.code.name) := by
        simp [present, Code.name_ne_nil]
      have scanCode : (Store.scanRow (r.newScan 1 now) 1).fatalCode = some (utf8 e.code.name) := by
        refine keeps.fatalCode.trans ?_
        rw [stopped]
        rfl
      exact .failed e last u.name stopped rfl (told.trans scanCode.symm) final
        (told.trans (congrArg some code.symm)) rfl told

end First

end Workspace

/-- A file was taken in as the only one of its batch, and a round was made. The unit of the file has
its first scan; it, its diagnostics and its literals are read back as `r` says, and the job ended as
the scan did. -/
def Persisted (content : Bytes) (ingest : Workspace.BatchOutcome × Workspace)
    (work : Workspace.Round × Workspace) (r : Tokenized) : Prop :=
  ∃ unit job scan diagnostics literals row,
    ingest.1.failure = none ∧
    ingest.1.results = [⟨unit, job, Digest.hex content, false⟩] ∧
    ingest.2.link.latestScan? unit = .ok none ∧
    work.1.processed ∧
    work.2.link.latestScan? unit = .ok (some scan) ∧
    work.2.link.diagnosticsOf scan.id = .ok diagnostics ∧
    work.2.link.literalsOf scan.id = .ok literals ∧
    scan.Keeps diagnostics literals r ∧
    work.2.link.store.work? job = some row ∧
    row.EndsAs scan work.1.failure r

/-- A file of any name and content, well formed or not, is taken into an empty store when it can be
copied. One round then stores what tokenizing the content says, under either profile, when the copy
can be read. -/
theorem scan_persisted {w kept : Workspace} (profile : Profile)
    (name content label createdBy worker : Bytes) (ingestedAt now : Instant)
    (copied : w.keepCopy (Upload.storedPath 1 (Digest.hex content) name) content = (.ok (), kept))
    (readable : kept.files.read (kept.placeOf (Upload.storedPath 1 (Digest.hex content) name))
      = .ok content)
    (due : Bytes.le ingestedAt.text now.text) :
    let ingest := (w.withStore {}).ingestBatch ingestedAt label createdBy [⟨name, content⟩]
    let work := ingest.2.processJob scanStage worker { profile } now
    Persisted content ingest work (tokenize name ⟨name, profile⟩ content) := by
  intro ingest work
  have ingested : ingest = _ :=
    Workspace.ingestBatch_empty ingestedAt label createdBy ⟨name, content⟩ copied
  have second : ingest.2 = kept.withStore (Workspace.firstStore ingestedAt label createdBy
      (Workspace.newUnit ingestedAt 1 ⟨name, content⟩)) := congrArg Prod.snd ingested
  rw [← Workspace.path_newUnit ingestedAt 1 ⟨name, content⟩] at readable
  have scanned := Workspace.scanned_firstStore label createdBy worker readable due profile name
  rw [← second] at scanned
  obtain ⟨scan, diagnostics, literals, row, found⟩ := scanned
  refine ⟨1, 1, scan, diagnostics, literals, row, ?_, ?_, ?_, found⟩
  · rw [ingested]
  · rw [ingested]
  · rw [ingested]
    rfl

theorem scan_persisted_open_string :
    let content := utf8 "\"/1\" \"a"
    let w : Workspace := ⟨.ofStore {}, .inMemory, utf8 "/data"⟩
    let r := tokenize (utf8 "m/a.asn") ⟨utf8 "m/a.asn", .ascii⟩ content
    let ingest := w.ingestBatch .zero [] [] [⟨utf8 "m/a.asn", content⟩]
    let work := ingest.2.processJob scanStage (utf8 "worker") { profile := .ascii } .zero
    r.fatal.isSome ∧ (literalsOf r.tokens).map Token.text = [utf8 "\"/1\""] ∧
      Persisted content ingest work r := by
  intro content w r ingest work
  obtain ⟨kept, copied, readable⟩ := Workspace.keepCopy_inMemory w.link {} (utf8 "/data")
    (Upload.storedPath 1 (Digest.hex content) (utf8 "m/a.asn")) content
  have persisted := scan_persisted .ascii (utf8 "m/a.asn") content [] [] (utf8 "worker") .zero
    .zero copied readable (by decide)
  exact ⟨by decide +kernel, by decide +kernel, persisted⟩

end AsnLexis
