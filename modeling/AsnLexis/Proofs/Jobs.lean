import AsnLexis.Proofs.Queue
import AsnLexis.Proofs.Scans
import Mathlib

/-! The steps of a job on a store that answers, or answers the calls that a job cannot do without.
Claiming and concluding change one row of the queue; performing stores a scan at most, and what it
comes to depends on the units and the files alone. -/

namespace AsnLexis

def Store.concluded (failure : Option (Bytes × Bytes)) (now : Stamp) : Work → Work :=
  match failure with
  | some (code, message) => finished .failed code message now
  | none => finished .ok [] [] now

@[simp] theorem Store.id_concluded (failure : Option (Bytes × Bytes)) (now : Stamp) (w : Work) :
    (concluded failure now w).id = w.id := by
  cases failure <;> rfl

namespace Store

variable {s : Store} {f g : Work → Work}

theorem updateWork_updateWork (s : Store) (id : RowId) (keeps : ∀ w, (f w).id = w.id) :
    (s.updateWork id f).updateWork id g = s.updateWork id (g ∘ f) := by
  simp only [updateWork, Table.map, List.map_map]
  congr 2
  apply List.map_congr_left
  intro w _
  by_cases own : w.id = id <;> simp [own, keeps]

theorem Keyed.updateWork (keyed : s.Keyed) (id : RowId) (keeps : ∀ w, (f w).id = w.id) :
    (s.updateWork id f).Keyed where
  works := keyed.works.map fun w => by split_ifs <;> simp [keeps]
  scans := keyed.scans
  diagnostics := keyed.diagnostics
  literals := keyed.literals

end Store

namespace Workspace

def JobFailure.kept (f : JobFailure) : Bytes × Bytes := (f.code, f.message)

def withStore (w : Workspace) (s : Store) : Workspace := { w with link := .ofStore s }

/-- The workspace with another store behind its connection, which answers or fails as before. -/
def backedBy (w : Workspace) (s : Store) : Workspace := { w with link := w.link.withStore s }

variable (w : Workspace) {s : Store}

@[simp] theorem store_withStore : (w.withStore s).link.store = s := rfl

theorem claim_withStore (stage worker : Bytes) (now : Instant) :
    (w.withStore s).claim stage worker now
      = (.ok (s.claimWork stage worker now).1, w.withStore (s.claimWork stage worker now).2) :=
  rfl

theorem claim_cases (stage worker : Bytes) (now : Instant) :
    (∃ e, w.claim stage worker now = (.error e, w)) ∨
      w.claim stage worker now = (.ok (w.link.store.claimWork stage worker now).1,
        w.backedBy (w.link.store.claimWork stage worker now).2) := by
  rcases w.link.insert_cases .claimWork (utf8 "claim work")
    (fun s => .ok (s.claimWork stage worker now)) Empty.elim with
    ⟨e, refused⟩ | ⟨a, after, -, made, same⟩
  · refine .inl ⟨e, ?_⟩
    rw [claim, onStore, Connection.claimWork, refused]
  · right
    have made := Except.ok.inj made
    rw [made, claim, onStore, Connection.claimWork, same]
    rfl

variable {w}

theorem conclude_eq (steady : w.link.Steady) {job : Work} (member : job ∈ w.link.store.works.rows)
    (running : job.status = .running) (failure : Option JobFailure) (now : Instant) :
    w.conclude now job failure
      = (failure.map JobFailure.error, w.backedBy (w.link.store.updateWork job.id
          (Store.concluded (failure.map JobFailure.kept) now.text))) := by
  have finish (ending code message) := Queue.finishWork?_of_running member running ending code
    message now
  have asked := Connection.finishWork_eq steady.reached steady.finishWork
  cases failure with
  | none =>
      have ok : Store.Ending.ofText? (utf8 Status.ok.name) = some .ok :=
        Store.Ending.ofText?_eq_some_iff.2 rfl
      simp only [conclude, onStore, Connection.finishJob, asked, ok, finish]
      rfl
  | some f =>
      have failed : Store.Ending.ofText? (utf8 Status.failed.name) = some .failed :=
        Store.Ending.ofText?_eq_some_iff.2 rfl
      simp only [conclude, onStore, Connection.finishJob, asked, failed, finish]
      rfl

variable (w)

theorem conclude_withStore {job : Work} (member : job ∈ s.works.rows)
    (running : job.status = .running) (failure : Option JobFailure) (now : Instant) :
    (w.withStore s).conclude now job failure
      = (failure.map JobFailure.error, w.withStore (s.updateWork job.id
          (Store.concluded (failure.map JobFailure.kept) now.text))) :=
  conclude_eq (w := w.withStore s) (Connection.steady_ofStore s) member running failure now

/-- What scanning the unit of a job comes to before anything is stored. -/
inductive Reading where
  | failed (failure : JobFailure)
  | scanned (unit : SourceUnit) (r : Tokenized)

def reading (settings : ScanSettings) (unit : RowId) : Reading :=
  match w.link.store.unit? unit with
  | none =>
    let error := .ofText (utf8 "source unit " ++ Numeral.signed unit ++ utf8 " not found")
    .failed ⟨databaseCode, utf8 "source unit not found", error⟩
  | some u =>
    match w.files.read (w.placeOf u.path) with
    | .error e => .failed (.ofError (.file (utf8 "read") (w.placeOf u.path) e))
    | .ok content =>
      match settings.tokenize u.name content with
      | .error e => .failed (.ofError e)
      | .ok r => .scanned u r

def attempt (settings : ScanSettings) (unit : RowId) : Reading :=
  match w.link.unit? unit with
  | .error e =>
    let error := .wrap (utf8 "get source unit") e
    .failed ⟨databaseCode, error.message, error⟩
  | .ok none =>
    let error := .ofText (utf8 "source unit " ++ Numeral.signed unit ++ utf8 " not found")
    .failed ⟨databaseCode, utf8 "source unit not found", error⟩
  | .ok (some _) => w.reading settings unit

theorem attempt_of_found {w : Workspace} {unit : RowId}
    (found : w.link.unit? unit = .ok (w.link.store.unit? unit)) (settings : ScanSettings) :
    w.attempt settings unit = w.reading settings unit := by
  rw [attempt, found]
  cases known : w.link.store.unit? unit with
  | none => simp only [reading, known]
  | some u => rfl

theorem attempt_eq_reading {w : Workspace} (reached : w.link.barrier? = none)
    (answers : w.link.outage? .unitById = none) (shown : w.link.hidesUnits = false)
    (settings : ScanSettings) (unit : RowId) : w.attempt settings unit = w.reading settings unit := by
  refine attempt_of_found ?_ settings
  simp [Connection.unit?, answers, shown, Connection.ask, reached]

theorem reading_withStore {after : Store} (units : after.units = s.units)
    (settings : ScanSettings) (unit : RowId) :
    (w.withStore after).reading settings unit = (w.withStore s).reading settings unit := by
  have same : after.unit? unit = s.unit? unit := by rw [Store.unit?, units, ← Store.unit?]
  simp only [reading, store_withStore, same]
  rfl

variable {w}

theorem reading_eq_scanned {settings : ScanSettings} {unit : RowId} {u : SourceUnit} {r : Tokenized}
    (read : w.reading settings unit = .scanned u r) :
    w.link.store.unit? unit = some u ∧
      ∃ own content, settings.forUnit u.name = .ok own ∧
        w.files.read (w.placeOf u.path) = .ok content ∧ r = AsnLexis.tokenize u.name own content := by
  unfold reading at read
  split at read
  next => cases read
  next found =>
    split at read
    next => cases read
    next content copy =>
      unfold ScanSettings.tokenize at read
      split at read
      next => cases read
      next tokenized =>
        cases read
        cases named : settings.forUnit u.name with
        | error e =>
            rw [named] at tokenized
            cases tokenized
        | ok own =>
            rw [named] at tokenized
            cases tokenized
            exact ⟨found, own, content, rfl, copy, rfl⟩

theorem attempt_eq_scanned {settings : ScanSettings} {unit : RowId} {u : SourceUnit} {r : Tokenized}
    (scanned : w.attempt settings unit = .scanned u r) : w.reading settings unit = .scanned u r := by
  unfold attempt at scanned
  split at scanned
  · cases scanned
  · cases scanned
  · exact scanned

theorem ordered_reading {settings : ScanSettings} {unit : RowId} {u : SourceUnit} {r : Tokenized}
    (read : w.reading settings unit = .scanned u r) (now : Instant) : (r.newScan u.id now).Ordered := by
  obtain ⟨_, own, content, _, _, rfl⟩ := reading_eq_scanned read
  exact ordered_newScan u.name own content u.id now

theorem perform_eq (steady : w.link.Steady) (keyed : w.link.store.Keyed) (settings : ScanSettings)
    (now : Instant) (job : Work) :
    w.perform scanStage settings now job
      = match w.attempt settings job.unit with
        | .failed failure => (⟨some failure, []⟩, w)
        | .scanned u r =>
          (⟨r.fatal.map fun e => .ofError (.scanFatal u.name w.link.store.scans.next e), r.log⟩,
            w.backedBy (w.link.store.withScan (r.newScan u.id now))) := by
  rw [perform, attempt]
  -- Each `cases` is one way to fail before anything is stored; what is left stores a scan.
  cases asked : w.link.unit? job.unit with
  | error e => rfl
  | ok answer =>
      cases answer with
      | none => rfl
      | some u =>
          have found := Connection.unit?_eq_some asked
          simp only [reading, found, scanUnit]
          cases w.files.read (w.placeOf u.path) with
          | error e => rfl
          | ok content =>
              simp only [ScanSettings.tokenize]
              cases settings.forUnit u.name with
              | error e => rfl
              | ok own =>
                  have same : u.id = job.unit := by simpa using List.find?_some found
                  have unit : (w.link.store.unit?
                      ((tokenize u.name own content).newScan u.id now).unit).isSome := by
                    rw [Tokenized.newScan, same, found]
                    rfl
                  have stored := keyed.insertScan_eq (ordered_newScan u.name own content u.id now) unit
                  have inserted (explain : Store.ScanPart × Constraint → Error) :=
                    Connection.insert_eq steady.reached steady.insertScan (utf8 "begin tx")
                      (·.insertScan ((tokenize u.name own content).newScan u.id now)) explain
                  simp only [Except.map, storeScan, record_tokenize, onStore, Connection.insertScan,
                    inserted, stored, Option.map_map]
                  rfl

variable (w)

theorem perform_withStore (keyed : s.Keyed) (settings : ScanSettings) (now : Instant) (job : Work) :
    (w.withStore s).perform scanStage settings now job
      = match (w.withStore s).reading settings job.unit with
        | .failed failure => (⟨some failure, []⟩, w.withStore s)
        | .scanned u r =>
          (⟨r.fatal.map fun e => .ofError (.scanFatal u.name s.scans.next e), r.log⟩,
            w.withStore (s.withScan (r.newScan u.id now))) := by
  have performed := perform_eq (w := w.withStore s) (Connection.steady_ofStore s) keyed settings now
    job
  rwa [attempt_eq_reading rfl rfl rfl] at performed

/-- The code and the message that a job fails with, if it fails. Neither tells the id of the scan. -/
def Reading.kept : Reading → Option (Bytes × Bytes)
  | .failed failure => some failure.kept
  | .scanned u r => r.fatal.map fun e => (JobFailure.ofError (.scanFatal u.name 0 e)).kept

def Reading.content (now : Instant) : Reading → Option ScanContent
  | .failed _ => none
  | .scanned u r => some (r.newScan u.id now).content

def Reading.untimed (reading : Reading) : Option ScanContent :=
  (reading.content .zero).map ScanContent.untimed

theorem Reading.untimed_content (reading : Reading) (now : Instant) :
    (reading.content now).map ScanContent.untimed = reading.untimed := by
  cases reading with
  | failed failure => rfl
  | scanned u r =>
      simp only [untimed, content, Option.map_some, ScanContent.untimed, Store.NewScan.content,
        Store.scanRow, Tokenized.newScan]

theorem Reading.times_content {reading : Reading} {now : Instant} {x : ScanContent}
    (stored : reading.content now = some x) :
    x.scan.startedAt = now.text ∧ x.scan.finishedAt = now.text := by
  cases reading with
  | failed failure => cases stored
  | scanned u r =>
      cases stored
      exact ⟨rfl, rfl⟩

/-- What performing a job leaves behind. -/
structure Performs (before after : Store) (reading : Reading) (now : Instant)
    (outcome : JobOutcome) : Prop where
  keyed : after.Keyed
  works : after.works = before.works
  units : after.units = before.units
  contents : after.contents = before.contents ++ (reading.content now).toList
  keeps : before.Kept after
  kept : outcome.failure.map JobFailure.kept = reading.kept

theorem performs_eq {w : Workspace} (steady : w.link.Steady) (keyed : w.link.store.Keyed)
    (settings : ScanSettings) (now : Instant) (job : Work) :
    ∃ outcome after, w.perform scanStage settings now job = (outcome, w.backedBy after) ∧
      Performs w.link.store after (w.attempt settings job.unit) now outcome := by
  rw [perform_eq steady keyed]
  cases attempted : w.attempt settings job.unit with
  | failed failure =>
      refine ⟨⟨some failure, []⟩, w.link.store, rfl, ?_⟩
      exact ⟨keyed, rfl, rfl, by simp [Reading.content], .refl _, rfl⟩
  | scanned u r =>
      have contents := keyed.contents_withScan (ordered_reading (attempt_eq_scanned attempted) now)
      refine ⟨_, w.link.store.withScan (r.newScan u.id now), rfl, ?_⟩
      exact ⟨keyed.withScan _, rfl, rfl, contents, w.link.store.kept_withScan _, Option.map_map ..⟩

theorem performs_withStore (keyed : s.Keyed) (settings : ScanSettings) (now : Instant)
    (job : Work) :
    ∃ outcome after,
      (w.withStore s).perform scanStage settings now job = (outcome, w.withStore after) ∧
        Performs s after ((w.withStore s).reading settings job.unit) now outcome := by
  have performs := performs_eq (w := w.withStore s) (Connection.steady_ofStore s) keyed settings now
    job
  rwa [attempt_eq_reading rfl rfl rfl] at performs

def settled (worker : Bytes) (failure : Option (Bytes × Bytes)) (now : Instant) (job : Work) :
    Work :=
  Store.concluded failure now.text (Store.claimed worker now.text job)

@[simp] theorem id_settled (worker : Bytes) (failure : Option (Bytes × Bytes)) (now : Instant)
    (job : Work) : (settled worker failure now job).id = job.id :=
  Store.id_concluded failure now.text _

theorem processJob_withStore (keyed : s.Keyed) (worker : Bytes) (settings : ScanSettings)
    {now : Instant} {job : Work} (next : s.nextWork? scanStage now.text = some job) :
    (w.withStore s).processJob scanStage worker settings now
      = match (w.withStore s).reading settings job.unit with
        | .failed failure =>
          (⟨true, some failure.error, []⟩,
            w.withStore (s.updateWork job.id (settled worker (some failure.kept) now)))
        | .scanned u r =>
          let failure := r.fatal.map fun e => JobFailure.ofError (.scanFatal u.name s.scans.next e)
          (⟨true, failure.map JobFailure.error, r.log⟩,
            w.withStore ((s.withScan (r.newScan u.id now)).updateWork job.id
              (settled worker (failure.map JobFailure.kept) now))) := by
  have claim : s.claimWork scanStage worker now = (some (Store.claimed worker now.text job),
      s.updateWork job.id (Store.claimed worker now.text)) := by
    rw [Store.claimWork, next]
  have claimed : Store.claimed worker now.text job
      ∈ (s.updateWork job.id (Store.claimed worker now.text)).works.rows :=
    (Store.mem_updateWork keyed.works (Store.mem_of_nextWork? next).1).2 (.inl rfl)
  have still : (s.updateWork job.id (Store.claimed worker now.text)).Keyed :=
    keyed.updateWork job.id fun _ => rfl
  have reads : (w.withStore (s.updateWork job.id (Store.claimed worker now.text))).reading settings
      (Store.claimed worker now.text job).unit = (w.withStore s).reading settings job.unit :=
    reading_withStore w rfl settings job.unit
  have both (s : Store) (failure : Option (Bytes × Bytes)) :
      (s.updateWork job.id (Store.claimed worker now.text)).updateWork job.id
        (Store.concluded failure now.text) = s.updateWork job.id (settled worker failure now) :=
    Store.updateWork_updateWork s job.id fun _ => rfl
  simp only [processJob, claim_withStore, claim]
  rw [perform_withStore w still, reads]
  cases (w.withStore s).reading settings job.unit with
  | failed failure =>
      simp only
      rw [conclude_withStore w claimed rfl]
      exact congrArg (fun s => (_, w.withStore s)) (both s _)
  | scanned u r =>
      have inside : Store.claimed worker now.text job
          ∈ ((s.updateWork job.id (Store.claimed worker now.text)).withScan
            (r.newScan u.id now)).works.rows := claimed
      simp only
      rw [conclude_withStore w inside rfl]
      exact congrArg (fun s => (_, w.withStore s)) (both (s.withScan _) _)

end Workspace

end AsnLexis
