import AsnLexis.Proofs.History
import Mathlib

/-! What can be relied on in a store, whatever was done with it: units are distinct and have one job
each, scans are whole, and the status of a job agrees with the latest scan of its unit. -/

namespace AsnLexis

/-- Codes of jobs that failed before there was a scan, or on an error that has no code. -/
def plainCodes : List Bytes := [utf8 "FILE", utf8 "DATABASE", utf8 "UNKNOWN"]

theorem present_plainCode {code : Bytes} (plain : code ∈ plainCodes) : present code = some code := by
  simp only [plainCodes, List.mem_cons, List.not_mem_nil, or_false] at plain
  rcases plain with rfl | rfl | rfl <;> decide

theorem present_codeName (code : Code) : present (utf8 code.name) = some (utf8 code.name) := by
  simp [present, Code.name_ne_nil]

namespace Workspace

variable {w : Workspace} {settings : ScanSettings} {unit : RowId}

theorem jobCode_of_tokenize {name content : Bytes} {e : Error}
    (failed : settings.tokenize name content = .error e) : e.jobCode = "UNKNOWN" := by
  rw [ScanSettings.tokenize, ScanSettings.forUnit] at failed
  cases rename : settings.rename with
  | none =>
      rw [rename] at failed
      cases failed
  | some other =>
      rw [rename] at failed
      simp only [Settings.rename] at failed
      split_ifs at failed <;> cases failed
      rfl

theorem code_of_failed {failure : JobFailure} (failed : w.attempt settings unit = .failed failure) :
    failure.code ∈ plainCodes := by
  unfold attempt at failed
  split at failed
  next =>
    cases failed
    simp [plainCodes, databaseCode]
  next =>
    cases failed
    simp [plainCodes, databaseCode]
  next =>
    unfold reading at failed
    split at failed
    next =>
      cases failed
      simp [plainCodes, databaseCode]
    next =>
      split at failed
      next =>
        cases failed
        simp [plainCodes, JobFailure.ofError, Error.jobCode]
      next =>
        split at failed
        next e unnamed =>
          cases failed
          simp [plainCodes, JobFailure.ofError, jobCode_of_tokenize unnamed]
        next => cases failed

theorem Reading.sound_of_kept {reading : Reading} (sound : reading.kept = none) :
    ∃ x, reading.untimed = some x ∧ x.scan.fatalCode = none := by
  cases reading with
  | failed failure => cases sound
  | scanned u r =>
      have none : r.fatal = none := by simpa [kept] using sound
      refine ⟨_, rfl, ?_⟩
      simp [ScanContent.untimed, Store.NewScan.content, Store.scanRow, Tokenized.newScan, none,
        present]

theorem Reading.kept_eq_some {reading : Reading} {code message : Bytes}
    (failed : reading.kept = some (code, message)) :
    (∃ failure, reading = .failed failure ∧ failure.code = code) ∨
      ∃ u r e, reading = .scanned u r ∧ r.fatal = some e ∧ utf8 e.code.name = code := by
  cases reading with
  | failed failure => exact .inl ⟨failure, rfl, congrArg Prod.fst (Option.some.inj failed)⟩
  | scanned u r =>
      obtain ⟨e, stopped, same⟩ := Option.map_eq_some_iff.1 failed
      exact .inr ⟨u, r, e, rfl, stopped, congrArg Prod.fst same⟩

theorem code_of_kept {code message : Bytes}
    (failed : (w.attempt settings unit).kept = some (code, message)) :
    present code = some code ∧ (code ∈ plainCodes ∨
      ∃ x, (w.attempt settings unit).untimed = some x ∧ x.scan.fatalCode = some code) := by
  obtain ⟨failure, came, rfl⟩ | ⟨u, r, e, came, stopped, rfl⟩ := Reading.kept_eq_some failed
  · have plain := code_of_failed came
    exact ⟨present_plainCode plain, .inl plain⟩
  · rw [came]
    refine ⟨present_codeName e.code, .inr ⟨_, rfl, ?_⟩⟩
    simp only [ScanContent.untimed, Store.NewScan.content, Store.scanRow, Tokenized.newScan,
      stopped, Option.map_some, Option.getD_some]
    exact present_codeName e.code

end Workspace

namespace Store

def scansOf (s : Store) (unit : RowId) : List Scan := s.scans.rows.filter (·.unit == unit)

/-- What the job of a unit says about its scans. -/
structure Reflects (s : Store) (unit : RowId) (job : Work) : Prop where
  attempts : (s.scansOf unit).length ≤ job.attempt
  ok : job.status = .ok → ∃ scan, s.latestScan? unit = some scan ∧ scan.fatalCode = none
  failed : job.status = .failed → ∃ code, job.errorCode = some code ∧ (code ∈ plainCodes ∨
    ∃ scan, s.latestScan? unit = some scan ∧ scan.fatalCode = some code)

structure Consistent (s : Store) : Prop where
  digests : (s.units.rows.map SourceUnit.digest).Nodup
  jobs : ∀ u ∈ s.units.rows, ∃ job, s.jobsOf u.id = [job] ∧ s.Reflects u.id job
  homes : ∀ scan ∈ s.scans.rows, ∃ u ∈ s.units.rows, u.id = scan.unit
  whole : ∀ scan ∈ s.scans.rows, scan.Whole (s.diagnosticsOf scan.id) (s.literalsOf scan.id)

theorem contentsOf_eq (s : Store) (unit : RowId) :
    s.contentsOf unit = (s.scansOf unit).map s.contentOf := by
  rw [contentsOf, contents, List.filter_map]
  rfl

theorem exists_latestScan {s : Store} {unit : RowId} {x : ScanContent}
    (latest : (s.contentsOf unit).getLast?.map ScanContent.untimed = some x) :
    ∃ scan, s.latestScan? unit = some scan ∧ scan.fatalCode = x.scan.fatalCode := by
  rw [contentsOf_eq, List.getLast?_map, Option.map_map] at latest
  obtain ⟨scan, found, rfl⟩ := Option.map_eq_some_iff.1 latest
  exact ⟨scan, found, rfl⟩

end Store

namespace Ledger

variable {log : List Attempt} {phases : List Phase} {s : Store}

theorem reflects (ledger : Ledger log phases s) {u : SourceUnit} {job : Work}
    (only : s.jobsOf u.id = [job]) : s.Reflects u.id job := by
  obtain ⟨member, own⟩ := List.mem_filter.1 (only ▸ List.mem_singleton_self job)
  obtain ⟨unit, -⟩ : job.unit = u.id ∧ job.stage = scanStage := by simpa using own
  -- `told` speaks of the last attempt at the job, which is what left the latest scan.
  constructor
  · have attempts := ledger.attempts job member
    rwa [unit, Store.contentsOf_eq, List.length_map] at attempts
  · intro ok
    obtain ⟨kept, ⟨now, before, rfl⟩, a, -, tells⟩ := ledger.told job member (by simp [Work.ended, ok])
    rw [unit] at tells
    cases kept with
    | some failure => simp at ok
    | none =>
        obtain ⟨x, came, sound⟩ := Workspace.Reading.sound_of_kept tells.kept
        obtain ⟨scan, found, same⟩ := Store.exists_latestScan (tells.latest x came)
        exact ⟨scan, found, same.trans sound⟩
  · intro failed
    obtain ⟨kept, ⟨now, before, rfl⟩, a, -, tells⟩ :=
      ledger.told job member (by simp [Work.ended, failed])
    rw [unit] at tells
    cases kept with
    | none => simp at failed
    | some failure =>
        obtain ⟨present, cases⟩ := Workspace.code_of_kept tells.kept
        refine ⟨failure.1, present, cases.imp_right ?_⟩
        rintro ⟨x, came, code⟩
        obtain ⟨scan, found, same⟩ := Store.exists_latestScan (tells.latest x came)
        exact ⟨scan, found, same.trans code⟩

theorem consistent (ledger : Ledger log phases s) : s.Consistent where
  digests := ledger.enlisted.digests
  jobs u member := by
    obtain ⟨job, only⟩ := ledger.enlisted.exists_jobsOf member
    exact ⟨job, only, ledger.reflects only⟩
  homes scan member :=
    Store.unit?_isSome_iff.1 (ledger.home _ (List.mem_map_of_mem (f := s.contentOf) member))
  whole scan member := Store.whole_of_contentOf (ledger.whole _ (List.mem_map_of_mem member))

end Ledger

/-- A store is consistent whatever calls were made and however the steps of workers came between each
other, as long as jobs can be queued and finished and scans be stored. -/
theorem pipeline_consistent :
    (∀ p : Pipeline, p.Reached → p.store.Consistent) ∧
    ∀ visits : List Pipeline.Visit, (∀ v ∈ visits, v.found.link.Steady) →
      (Pipeline.serve visits).Consistent := by
  have reached : ∀ p : Pipeline, p.Reached → p.store.Consistent :=
    fun p reached => reached.ledger.consistent
  refine ⟨reached, fun visits steady => ?_⟩
  obtain ⟨p, arrives, same⟩ := Pipeline.arises_serve steady
  exact same ▸ reached p arrives

/-- A unit is read and its duplicate left alone; the copy of the other one cannot be read at first,
and when it can, its text is not sound. -/
theorem pipeline_consistent_retry :
    let duty : Duty := ⟨utf8 "worker", { profile := .ascii }⟩
    let first := (utf8 "/data/batches/1/a3a0081351bb785d.asn", { content := utf8 "A" : MemoryNode })
    let second := (utf8 "/data/batches/1/06e4580dfbe2b4ff.asn", { content := utf8 "\"b" : MemoryNode })
    let found (nodes : List (Bytes × MemoryNode)) : Workspace :=
      ⟨{}, { medium := .memory { nodes } }, utf8 "/data"⟩
    let visits : List Pipeline.Visit := [
      ⟨found [], .ingestBatch .zero [] [] [⟨utf8 "a", utf8 "A"⟩, ⟨utf8 "b", utf8 "\"b"⟩,
        ⟨utf8 "c", utf8 "A"⟩]⟩,
      ⟨found [first], .drain duty .zero 2⟩,
      ⟨found [first, second], .resetFailed .zero⟩,
      ⟨found [first, second], .processJob duty .zero⟩]
    (Pipeline.serve visits).works.rows.map (fun j => (j.status, j.attempt, j.errorCode))
        = [(.ok, 1, none), (.failed, 2, some (utf8 "UNTERMINATED_STRING"))] ∧
      (Pipeline.serve visits).Consistent := by
  intro duty first second found visits
  have steady : ∀ v ∈ visits, v.found.link.Steady := by
    intro v member
    have link : v.found.link = {} := by
      simp only [visits, List.mem_cons, List.not_mem_nil, or_false] at member
      rcases member with rfl | rfl | rfl | rfl <;> rfl
    exact link ▸ Connection.steady_ofStore {}
  exact ⟨by decide +kernel, pipeline_consistent.2 visits steady⟩

end AsnLexis
