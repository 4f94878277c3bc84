import AsnLexis.Proofs.Consistency
import Mathlib

/-! Failed jobs that are queued again and drained. When each of them meets the copy and the settings
of its last attempt, it ends as it did then, one attempt later, and a scan that stopped early is
stored once more. -/

namespace AsnLexis

theorem isFatal_of_fatal {name : Bytes} {settings : Settings} {input : Bytes} {e : Error}
    (stopped : (tokenize name settings input).fatal = some e) : e.isFatal = true := by
  cases decoded : Source.read input with
  | error m =>
      rw [tokenize_malformed name settings decoded] at stopped
      cases stopped
      rfl
  | ok source =>
      obtain ⟨segments, ending, cut⟩ := exists_segmented settings.profile source.chars
      have fatal := (cut.outlined name decoded).fatal
      rw [stopped] at fatal
      cases ending with
      | finished gap => cases fatal
      | fatal gap head tail left fault =>
          obtain ⟨lexical, reason, rfl⟩ : ∃ lexical : LexError,
              lexical.reason = .fault fault ∧ e = .lexical lexical := ⟨_, rfl, Option.some.inj fatal⟩
          exact cut.fatal_ofError reason ⟨0, 0, 0, 0⟩

theorem Error.code_ne_unknown {e : Error} (fatal : e.isFatal = true) : e.code ≠ .unknown := by
  obtain ⟨f, member, stops⟩ := List.any_eq_true.1 fatal
  have listed : f ∈ Fault.all.filter e.has := by
    refine List.mem_filter.2 ⟨by cases f <;> decide, ?_⟩
    simpa [Error.has] using member
  have coded : (f.code?).isSome := by cases f <;> first | rfl | cases stops
  have found : ((Fault.all.filter e.has).findSome? Fault.code?).isSome :=
    List.findSome?_isSome_iff.2 ⟨f, listed, coded⟩
  obtain ⟨code, found⟩ := Option.isSome_iff_exists.1 found
  rw [Error.code, found]
  obtain ⟨g, -, own⟩ := List.exists_of_findSome?_eq_some found
  rintro rfl
  cases g <;> cases own

theorem Code.mem_plainCodes_iff {code : Code} : utf8 code.name ∈ plainCodes ↔ code = .unknown := by
  cases code <;> decide

/-- Whether the scan of a failed job stopped early: the job has the code of the scan then. -/
def Work.stoppedEarly (j : Work) : Bool := !(plainCodes.map some).contains j.errorCode

namespace Workspace

variable {w : Workspace} {settings : ScanSettings} {unit : RowId}

theorem untimed_isSome_iff {code message : Bytes}
    (failed : (w.attempt settings unit).kept = some (code, message)) :
    ((w.attempt settings unit).untimed).isSome ↔ code ∉ plainCodes := by
  obtain ⟨failure, came, rfl⟩ | ⟨u, r, e, came, stopped, rfl⟩ := Reading.kept_eq_some failed
  · rw [came]
    exact ⟨fun stored => (Bool.noConfusion stored), fun other => absurd (code_of_failed came) other⟩
  · obtain ⟨_, own, content, _, _, rfl⟩ := reading_eq_scanned (attempt_eq_scanned came)
    rw [came]
    refine ⟨fun _ plain => ?_, fun _ => rfl⟩
    exact Error.code_ne_unknown (isFatal_of_fatal stopped) (Code.mem_plainCodes_iff.1 plain)

end Workspace

/-- An attempt at a unit is repeated by a worker with the same settings that finds the same copy under
the same path, after an attempt for which the unit was looked up in the store. -/
structure Attempt.Repeats (a : Attempt) (duty : Duty) (w : Workspace) (unit : RowId) : Prop where
  settings : a.settings = duty.settings
  directory : a.workspace.directory = w.directory
  copy : ∀ u, a.workspace.link.store.unit? unit = some u →
    a.workspace.files.read (w.placeOf u.path) = w.files.read (w.placeOf u.path)
  found : a.workspace.link.unit? unit = .ok (a.workspace.link.store.unit? unit)

theorem Attempt.Repeats.verdict {a : Attempt} {duty : Duty} {w : Workspace} {unit : RowId}
    {s : Store} (repeats : a.Repeats duty w unit)
    (known : a.workspace.link.store.unit? unit = s.unit? unit) :
    duty.verdict w s unit = a.reading unit := by
  have place (path : Bytes) : a.workspace.placeOf path = w.placeOf path := by
    rw [Workspace.placeOf, repeats.directory, Workspace.placeOf]
  have copy := repeats.copy
  rw [Attempt.reading, Workspace.attempt_of_found repeats.found, repeats.settings, Duty.verdict,
    Workspace.reading, Workspace.reading, Workspace.store_withStore, ← known]
  cases there : a.workspace.link.store.unit? unit with
  | none => rfl
  | some u =>
      simp only [place, copy u there]
      rfl

theorem Attempt.repeats_of_backedBy {a : Attempt} {duty : Duty} {w : Workspace} {s : Store}
    (settings : a.settings = duty.settings) (workspace : a.workspace = w.backedBy s)
    (found : ∀ s unit, (w.link.withStore s).unit? unit = .ok (s.unit? unit)) (unit : RowId) :
    a.Repeats duty w unit := by
  refine ⟨settings, ?_, fun u _ => ?_, ?_⟩
  · rw [workspace]
    rfl
  · rw [workspace]
    rfl
  · rw [workspace]
    exact found s unit

theorem Attempt.mem_of_last? {log : List Attempt} {job : RowId} {a : Attempt}
    (last : last? log job = some a) : a ∈ log :=
  (List.mem_filter.1 (List.mem_of_getLast? last)).1

namespace Store

variable {s : Store} {j : Work}

def Rests (s : Store) : Prop :=
  ∀ j ∈ s.works.rows, j.stage = scanStage → j.status ≠ .queued ∧ j.status ≠ .running

theorem queuedJobs_resetFailed (rests : s.Rests) (now : Instant) :
    (s.resetFailed scanStage now).2.queuedJobs
      = (s.failedWork scanStage).map (requeued now.text) := by
  have waits : ∀ j ∈ s.works.rows,
      Work.waits (if isFailed scanStage j then requeued now.text j else j)
        = isFailed scanStage j := by
    intro j member
    by_cases failed : isFailed scanStage j
    · have stage := (isFailed_iff.1 failed).1
      simp [failed, Work.waits, requeued, stage]
    · by_cases stage : j.stage = scanStage
      · simp [failed, Work.waits, (rests j member stage).1]
      · simp [failed, Work.waits, stage]
  have same : s.works.rows.filter (Work.waits ∘ fun j =>
      if isFailed scanStage j then requeued now.text j else j) = s.failedWork scanStage :=
    List.filter_congr waits
  rw [queuedJobs, resetFailed, Table.map, List.filter_map, same]
  apply List.map_congr_left
  intro j member
  rw [if_pos (List.mem_filter.1 member).2]

end Store

/-- A job after the failed ones were queued again and drained. One that had not failed is as it was;
one that had failed did so again, in the same way. -/
structure Work.Refails (before row : Work) : Prop where
  key : row.key = before.key
  stage : row.stage = before.stage
  status : row.status = before.status
  errorCode : row.errorCode = before.errorCode
  errorMessage : row.errorMessage = before.errorMessage
  attempt : row.attempt = if before.status = .failed then before.attempt + 1 else before.attempt
  rests : before.status ≠ .failed → row = before

namespace Ledger

variable {log : List Attempt} {phases : List Phase} {s : Store} {duty : Duty} {w : Workspace}
  {j row : Work}

theorem exists_failure (ledger : Ledger log phases s) (failed : j ∈ s.failedWork scanStage)
    (repeats : ∀ a, Attempt.last? log j.id = some a → a.Repeats duty w j.unit) :
    ∃ code message now before, ∃ a : Attempt, j = Store.concluded (some (code, message)) now before ∧
      a.Tells s j.unit (some (code, message)) ∧ duty.verdict w s j.unit = a.reading j.unit := by
  obtain ⟨member, own⟩ := List.mem_filter.1 failed
  have status := (Store.isFailed_iff.1 own).2
  obtain ⟨kept, ⟨now, before, same⟩, a, last, tells⟩ :=
    ledger.told j member (by simp [Work.ended, status])
  cases kept with
  | none =>
      rw [same] at status
      simp at status
  | some failure =>
      exact ⟨failure.1, failure.2, now, before, a, same, tells, (repeats a last).verdict tells.known⟩

theorem refails (ledger : Ledger log phases s) (rests : s.Rests) (member : j ∈ s.works.rows)
    (repeats : j ∈ s.failedWork scanStage →
      ∀ a, Attempt.last? log j.id = some a → a.Repeats duty w j.unit) (resetAt : Stamp)
    (settles : Work.Settles duty.worker (duty.verdict w s)
      (if Store.isFailed scanStage j then Store.requeued resetAt j else j) row) :
    j.Refails row := by
  -- A job that had failed was queued again and so has ended; any other neither waits nor changes.
  by_cases failed : Store.isFailed scanStage j
  · have inside : j ∈ s.failedWork scanStage := List.mem_filter.2 ⟨member, failed⟩
    have stage := ledger.enlisted.stages j member
    obtain ⟨code, message, now, before, a, rfl, tells, verdict⟩ :=
      ledger.exists_failure inside (repeats inside)
    rw [if_pos failed] at settles
    cases settles with
    | rests idle =>
        have waits : (Store.requeued resetAt
            (Store.concluded (some (code, message)) now before)).waits :=
          Work.waits_iff.2 ⟨stage, rfl⟩
        exact absurd waits idle
    | ends waits since ended =>
        have kept : (duty.verdict w s (Store.requeued resetAt
            (Store.concluded (some (code, message)) now before)).unit).kept
              = some (code, message) :=
          (congrArg Workspace.Reading.kept verdict).trans tells.kept
        rw [kept]
        exact ⟨rfl, rfl, rfl, rfl, rfl, rfl, fun other => absurd rfl other⟩
  · have sound : j.status ≠ .failed := fun status =>
      failed (Store.isFailed_iff.2 ⟨ledger.enlisted.stages j member, status⟩)
    have same : row = j := by
      rw [if_neg failed] at settles
      cases settles with
      | rests => rfl
      | ends waits =>
          obtain ⟨stage, queued⟩ := Work.waits_iff.1 waits
          exact absurd queued (rests j member stage).1
    rw [same]
    exact ⟨rfl, rfl, rfl, rfl, rfl, (if_neg sound).symm, fun _ => rfl⟩

theorem countP_failed (ledger : Ledger log phases s) {after : Store}
    (jobs : List.Forall₂ Work.Refails s.works.rows after.works.rows) :
    (after.jobsAmong ((s.failedWork scanStage).map Work.id)).countP (·.status == .failed)
      = (s.failedWork scanStage).length := by
  have among : s.works.rows.filter (fun j =>
      j.status == .failed && ((s.failedWork scanStage).map Work.id).contains j.id)
        = s.failedWork scanStage := by
    apply List.filter_congr
    intro j member
    rw [Bool.eq_iff_iff, Bool.and_eq_true, beq_iff_eq, Store.isFailed_iff]
    constructor
    · exact fun ⟨failed, _⟩ => ⟨ledger.enlisted.stages j member, failed⟩
    · intro failed
      refine ⟨failed.2, List.contains_iff_mem.2 (List.mem_map_of_mem ?_)⟩
      exact List.mem_filter.2 ⟨member, Store.isFailed_iff.2 failed⟩
  have alike := List.rel_filter (R := Work.Refails)
    (p := fun j => j.status == .failed && ((s.failedWork scanStage).map Work.id).contains j.id)
    (q := fun j => j.status == .failed && ((s.failedWork scanStage).map Work.id).contains j.id)
    (fun {before row} same => by
      simp only [same.status, show row.id = before.id from congrArg Prod.fst same.key]) jobs
  calc
    _ = (after.works.rows.filter fun j =>
          j.status == .failed && ((s.failedWork scanStage).map Work.id).contains j.id).length := by
      rw [Store.jobsAmong, List.countP_filter, List.countP_eq_length_filter]
    _ = (s.works.rows.filter fun j =>
          j.status == .failed && ((s.failedWork scanStage).map Work.id).contains j.id).length :=
      alike.length_eq.symm
    _ = _ := by rw [among]

/-- What a repeated attempt at a failed job stores is the latest scan of its unit, if the scan stopped
early, and nothing otherwise. -/
theorem restores (ledger : Ledger log phases s) (failed : j ∈ s.failedWork scanStage)
    (repeats : ∀ a, Attempt.last? log j.id = some a → a.Repeats duty w j.unit) :
    if j.stoppedEarly then
      ∃ x, (duty.verdict w s j.unit).untimed = some x ∧
        (s.contentsOf j.unit).getLast?.map ScanContent.untimed = some x
    else (duty.verdict w s j.unit).untimed = none := by
  obtain ⟨code, message, now, before, a, same, tells, verdict⟩ :=
    ledger.exists_failure failed repeats
  have stored := Workspace.untimed_isSome_iff tells.kept
  have errorCode : j.errorCode = some code := by
    rw [same]
    exact (Workspace.code_of_kept tells.kept).1
  have early : j.stoppedEarly ↔ code ∉ plainCodes := by
    simp [Work.stoppedEarly, errorCode]
  -- The repeated attempt is the last one at the job, so its scan is the latest of the unit.
  rw [verdict]
  split_ifs with stopped
  · obtain ⟨x, came⟩ := Option.isSome_iff_exists.1 (stored.2 (early.1 stopped))
    exact ⟨x, came, tells.latest x came⟩
  · rw [← Option.not_isSome_iff_eq_none]
    exact fun some => stopped (early.2 (stored.1 some))

end Ledger

theorem map_some_filterMap {α β : Type} {f g : α → Option β} {p : α → Bool} {l : List α}
    (agree : ∀ a ∈ l, if p a then ∃ b, f a = some b ∧ g a = some b else f a = none) :
    (l.filterMap f).map some = (l.filter p).map g := by
  induction l with
  | nil => rfl
  | cons a l ih =>
      have first := agree a List.mem_cons_self
      have others := ih fun b member => agree b (List.mem_cons_of_mem a member)
      cases chosen : p a with
      | true =>
          obtain ⟨b, came, same⟩ : ∃ b, f a = some b ∧ g a = some b := by simpa [chosen] using first
          simp [chosen, came, same, others]
      | false =>
          have none : f a = none := by simpa [chosen] using first
          simp [chosen, none, others]

/-- What is left when failed jobs were queued again and drained. All of them failed again, and the
latest scan of each unit whose scan had stopped early is there once more. -/
structure Store.Redrained (s after : Store) (drained : Drained) : Prop where
  processed : drained.processed = (s.failedWork scanStage).length
  failed : drained.failed = (s.failedWork scanStage).length
  errors : drained.errors.length = (s.failedWork scanStage).length
  refusals : drained.refusals = []
  jobs : List.Forall₂ Work.Refails s.works.rows after.works.rows
  units : after.units = s.units
  kept : s.Kept after
  scans : ∃ added, after.contents = s.contents ++ added ∧
    (added.map fun x => some x.untimed).Perm (((s.failedWork scanStage).filter Work.stoppedEarly).map
      fun j => (s.contentsOf j.unit).getLast?.map ScanContent.untimed)

theorem Ledger.redrained {log : List Attempt} {phases : List Phase} {s : Store} {duty : Duty}
    {w : Workspace} {turns : List Turn} {c : Crew} (ledger : Ledger log phases s) (rests : s.Rests)
    (repeats : ∀ j ∈ s.failedWork scanStage,
      ∀ a, Attempt.last? log j.id = some a → a.Repeats duty w j.unit) {resetAt : Instant}
    (drains : Drains duty w (s.resetFailed scanStage resetAt).2 turns c) :
    s.Redrained c.store c.drained := by
  have verdicts : duty.verdict w (s.resetFailed scanStage resetAt).2 = duty.verdict w s :=
    funext fun unit => Workspace.reading_withStore w rfl duty.settings unit
  have queued := Store.queuedJobs_resetFailed rests resetAt
  have jobs : List.Forall₂ Work.Refails s.works.rows c.store.works.rows := by
    have settles := drains.jobs
    rw [verdicts] at settles
    change List.Forall₂ _ (s.works.rows.map _) _ at settles
    rw [List.forall₂_map_left_iff, List.forall₂_iff_zip] at settles
    rw [List.forall₂_iff_zip]
    refine ⟨settles.1, fun pair => ?_⟩
    have member := (List.of_mem_zip pair).1
    exact ledger.refails rests member (repeats _) resetAt.text (settles.2 pair)
  have ids : (s.resetFailed scanStage resetAt).2.queuedJobs.map Work.id
      = (s.failedWork scanStage).map Work.id := by
    rw [queued, List.map_map]
    rfl
  have errors : c.drained.errors.length = (s.failedWork scanStage).length := by
    rw [drains.errors, ids, ledger.countP_failed jobs]
  constructor
  · rw [drains.processed, queued, List.length_map]
  · exact drains.failed.trans errors
  · exact errors
  · exact drains.refusals
  · exact jobs
  · exact drains.units
  · exact ⟨drains.kept.scans, drains.kept.diagnostics, drains.kept.literals⟩
  · obtain ⟨added, contents, scans, -⟩ := drains.scans
    rw [queued, verdicts, List.filterMap_map] at scans
    refine ⟨added, contents, ?_⟩
    have restored := map_some_filterMap fun j failed => ledger.restores failed (repeats j failed)
    have both := scans.map some
    rw [List.map_map] at both
    exact restored ▸ both

/-- When the failed jobs of a store at rest are queued again and drained, all of them fail as before,
whatever the order of the workers' steps. -/
theorem redrain_stable {p : Pipeline} (reached : p.Reached) (rests : p.store.Rests) {duty : Duty}
    {w : Workspace} (repeats : ∀ j ∈ p.store.failedWork scanStage,
      ∀ a, Attempt.last? p.log j.id = some a → a.Repeats duty w j.unit)
    (resetAt : Instant) (workers : Int) :
    let reset := (w.withStore p.store).onStore (·.resetFailed scanStage resetAt)
    reset.1 = .ok (p.store.failedWork scanStage).length ∧
    (∀ turns c, Interleaves duty w reset.2.link.store workers turns c → c.Finished →
      p.store.Redrained c.store c.drained) ∧
    ∀ now, Bytes.le resetAt.text now.text →
      let drain := reset.2.drain scanStage duty.worker duty.settings now workers
      p.store.Redrained drain.2.link.store drain.1 := by
  intro reset
  have ledger := reached.ledger
  have keyed : reset.2.link.store.Keyed := (ledger.resetFailed resetAt).keyed
  have finished : ∀ turns c, Interleaves duty w reset.2.link.store workers turns c → c.Finished →
      p.store.Redrained c.store c.drained :=
    fun turns c run finished => ledger.redrained rests repeats (run.drains keyed finished)
  refine ⟨rfl, finished, fun now later => ?_⟩
  have due : reset.2.link.store.Due now := by
    intro j waiting
    rw [show reset.2.link.store.queuedJobs = _ from Store.queuedJobs_resetFailed rests resetAt]
      at waiting
    obtain ⟨before, -, rfl⟩ := List.mem_map.1 waiting
    exact later
  obtain ⟨turns, c, run, ended, -, drained⟩ := exists_interleaves_drain duty w keyed due workers
  have same : reset.2.drain scanStage duty.worker duty.settings now workers
      = (c.drained, c.workspace) := drained
  rw [same]
  exact finished turns c run ended

/-- The copy of one unit cannot be read, and the text of the other has an open string. -/
theorem redrain_stable_unread_and_open :
    let duty : Duty := ⟨utf8 "worker", { profile := .ascii }⟩
    let nodes := [(utf8 "/data/batches/1/06e4580dfbe2b4ff.asn", { content := utf8 "\"b" : MemoryNode })]
    let w : Workspace := ⟨{}, { medium := .memory { nodes } }, utf8 "/data"⟩
    ∃ p : Pipeline, p.Reached ∧
      p.store.works.rows.map (fun j => (j.status, j.errorCode))
        = [(.failed, some (utf8 "FILE")), (.failed, some (utf8 "UNTERMINATED_STRING"))] ∧
      let reset := (w.withStore p.store).onStore (·.resetFailed scanStage .zero)
      let drain := reset.2.drain scanStage duty.worker duty.settings .zero 2
      p.store.Redrained drain.2.link.store drain.1 := by
  intro duty nodes w
  let s₁ := (w.onStore (·.insertBatch [] [] .zero)).2.link.store
  let s₂ := ((w.backedBy s₁).ingestFile .zero 1 ⟨utf8 "a", utf8 "A"⟩).2.link.store
  let s₃ := ((w.backedBy s₂).ingestFile .zero 1 ⟨utf8 "b", utf8 "\"b"⟩).2.link.store
  have steady (s : Store) : (w.backedBy s).link.Steady := (Connection.steady_ofStore {}).withStore s
  have opened : Pipeline.Reached ⟨s₁, [], []⟩ := .tail .refl (.batch (w := w) rfl [] [] .zero)
  have first : Pipeline.Reached ⟨s₂, [], []⟩ :=
    opened.tail (.file (w := w.backedBy s₁) rfl (steady s₁) .zero 1 _)
  have second : Pipeline.Reached ⟨s₃, [], []⟩ :=
    first.tail (.file (w := w.backedBy s₂) rfl (steady s₂) .zero 1 _)
  have computed : ((Crew.start (w.backedBy s₃) 1).run duty (List.replicate 7 ⟨0, .zero⟩)).any
      fun c => c.store.works.rows.map (fun j => (j.status, j.errorCode))
        == [(.failed, some (utf8 "FILE")), (.failed, some (utf8 "UNTERMINATED_STRING"))] := by
    decide +kernel
  obtain ⟨last, ran, failed⟩ := (Option.any_eq_true ..).1 computed
  have failed := beq_iff_eq.1 failed
  obtain ⟨made, reached, alike⟩ := Pipeline.Reached.run (c := .start (w.backedBy s₃) 1)
    (second.tail (.crew 1)) rfl rfl (steady s₃) ran
  have rests : last.store.Rests := by
    intro j member _
    have one := List.mem_map_of_mem (f := fun j : Work => (j.status, j.errorCode)) member
    rw [failed] at one
    have status : j.status = .failed := by
      simp only [List.mem_cons, Prod.mk.injEq, List.not_mem_nil, or_false] at one
      exact one.elim And.left And.left
    simp [status]
  refine ⟨_, reached, failed, ?_⟩
  refine (redrain_stable reached rests ?_ .zero 2).2.2 .zero (by decide)
  intro j _ a found
  obtain ⟨settings, workspace⟩ := alike a (Attempt.mem_of_last? found)
  exact Attempt.repeats_of_backedBy (w := w) settings workspace (fun _ _ => rfl) j.unit

end AsnLexis
