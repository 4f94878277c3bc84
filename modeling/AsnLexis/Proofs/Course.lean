import AsnLexis.Proofs.Crew
import AsnLexis.Proofs.Jobs
import Mathlib

/-! What workers side by side make of a store, step by step. A job that waits is claimed by one of
them, runs, and comes to the end that its unit and its file decide; whatever the order of the steps,
what the workers hold and count agrees with the jobs and the scans in the store. -/

namespace AsnLexis

namespace Store

@[simp] theorem id_claimed (worker : Bytes) (now : Stamp) (j : Work) :
    (claimed worker now j).id = j.id := rfl

@[simp] theorem status_claimed (worker : Bytes) (now : Stamp) (j : Work) :
    (claimed worker now j).status = .running := rfl

@[simp] theorem status_concluded (failure : Option (Bytes × Bytes)) (now : Stamp) (j : Work) :
    (concluded failure now j).status = if failure.isSome then .failed else .ok := by
  cases failure <;> rfl

@[simp] theorem unit_concluded (failure : Option (Bytes × Bytes)) (now : Stamp) (j : Work) :
    (concluded failure now j).unit = j.unit := by
  cases failure <;> rfl

end Store

namespace Work

def waits (j : Work) : Bool := j.stage == scanStage && j.status == .queued

def ended (j : Work) : Bool := j.status == .ok || j.status == .failed

def key (j : Work) : RowId × RowId := (j.id, j.unit)

theorem waits_iff {j : Work} : j.waits ↔ j.stage = scanStage ∧ j.status = .queued := by
  simp [waits]

@[simp] theorem waits_claimed (worker : Bytes) (now : Stamp) (j : Work) :
    (Store.claimed worker now j).waits = false := by simp [waits]

@[simp] theorem ended_claimed (worker : Bytes) (now : Stamp) (j : Work) :
    (Store.claimed worker now j).ended = false := by simp [ended]

@[simp] theorem waits_concluded (failure : Option (Bytes × Bytes)) (now : Stamp) (j : Work) :
    (Store.concluded failure now j).waits = false := by
  cases failure <;> simp [waits]

@[simp] theorem ended_concluded (failure : Option (Bytes × Bytes)) (now : Stamp) (j : Work) :
    (Store.concluded failure now j).ended = true := by
  cases failure <;> simp [ended]

theorem not_waits_of_ended {j : Work} (ended : j.ended) : j.waits = false := by
  cases status : j.status <;> simp_all [Work.ended, Work.waits]

/-- What can have become of a job since workers began: it is as it was, or it waited and was claimed,
or it was concluded after that as its unit decides. -/
inductive Advances (worker : Bytes) (verdict : RowId → Workspace.Reading) (before : Work) :
    Work → Prop
  | rests : Advances worker verdict before before
  | runs (waits : before.waits) (since : Stamp) :
      Advances worker verdict before (Store.claimed worker since before)
  | ends (waits : before.waits) (since now : Stamp) :
      Advances worker verdict before
        (Store.concluded (verdict before.unit).kept now (Store.claimed worker since before))

namespace Advances

variable {worker : Bytes} {verdict : RowId → Workspace.Reading} {before row : Work}

theorem key (advances : Advances worker verdict before row) : row.key = before.key := by
  cases advances with
  | rests => rfl
  | runs => rfl
  | ends => simp [Work.key, Store.claimed]

theorem eq_of_queued (advances : Advances worker verdict before row) (queued : row.status = .queued) :
    row = before := by
  cases advances with
  | rests => rfl
  | runs => cases queued
  | ends =>
      rw [Store.status_concluded] at queued
      split_ifs at queued

theorem runs_of_running (advances : Advances worker verdict before row) (waits : before.waits)
    (running : row.status = .running) : ∃ since, row = Store.claimed worker since before := by
  cases advances with
  | rests =>
      rw [(waits_iff.1 waits).2] at running
      cases running
  | runs _ since => exact ⟨since, rfl⟩
  | ends =>
      rw [Store.status_concluded] at running
      split_ifs at running

end Advances

end Work

namespace Store

def queuedJobs (s : Store) : List Work := s.works.rows.filter Work.waits

def Due (s : Store) (now : Instant) : Prop := ∀ j ∈ s.queuedJobs, Bytes.le j.availableAt now.text

instance (s : Store) (now : Instant) : Decidable (s.Due now) :=
  inferInstanceAs (Decidable (∀ j ∈ s.queuedJobs, _))

def jobsAmong (s : Store) (ids : List RowId) : List Work :=
  s.works.rows.filter (ids.contains ·.id)

variable {s : Store} {j : Work}

theorem mem_jobsAmong {ids : List RowId} : j ∈ s.jobsAmong ids ↔ j ∈ s.works.rows ∧ j.id ∈ ids := by
  rw [jobsAmong, List.mem_filter, List.contains_iff_mem]

theorem Keyed.jobsAmong_queuedJobs (keyed : s.Keyed) :
    s.jobsAmong (s.queuedJobs.map Work.id) = s.queuedJobs := by
  apply List.filter_congr
  intro j member
  rw [Bool.eq_iff_iff, List.contains_iff_mem, List.mem_map]
  constructor
  · rintro ⟨queued, waiting, same⟩
    obtain ⟨other, waits⟩ := List.mem_filter.1 waiting
    rwa [← keyed.works.eq_of_id other member same]
  · exact fun waits => ⟨j, List.mem_filter.2 ⟨member, waits⟩, rfl⟩

theorem rows_updateWork (numbered : s.works.Numbered Work.id) (member : j ∈ s.works.rows)
    (f : Work → Work) : ∃ front back, s.works.rows = front ++ j :: back ∧
      (s.updateWork j.id f).works.rows = front ++ f j :: back := by
  obtain ⟨front, back, split⟩ := List.append_of_mem member
  have nodup := numbered.nodup
  rw [split, List.map_append, List.map_cons, List.nodup_middle, List.nodup_cons, ← List.map_append]
    at nodup
  have others : ∀ row ∈ front ++ back, (if row.id == j.id then f row else row) = row := by
    intro row inside
    have apart : row.id ≠ j.id := fun same =>
      nodup.1 (same ▸ List.mem_map_of_mem inside)
    simp [apart]
  have first := List.map_congr_left fun row inside =>
    others row (List.mem_append_left back inside)
  have second := List.map_congr_left fun row inside =>
    others row (List.mem_append_right front inside)
  refine ⟨front, back, split, ?_⟩
  rw [updateWork, Table.map, split, List.map_append, List.map_cons, first, second]
  simp

theorem jobsAmong_updateWork (numbered : s.works.Numbered Work.id) {ids : List RowId}
    (mine : j ∈ s.jobsAmong ids) {f : Work → Work} (keeps : (f j).id = j.id) :
    ∃ mine₁ mine₂, s.jobsAmong ids = mine₁ ++ j :: mine₂ ∧
      (s.updateWork j.id f).jobsAmong ids = mine₁ ++ f j :: mine₂ := by
  obtain ⟨member, own⟩ := List.mem_filter.1 mine
  obtain ⟨front, back, before, after⟩ := rows_updateWork numbered member f
  refine ⟨front.filter (ids.contains ·.id), back.filter (ids.contains ·.id), ?_, ?_⟩
  · simp only [jobsAmong, before, List.filter_append, List.filter_cons, own, if_true]
  · simp only [jobsAmong, after, List.filter_append, List.filter_cons, keeps, own, if_true]

theorem length_queuedJobs_updateWork (numbered : s.works.Numbered Work.id)
    (member : j ∈ s.works.rows) {f : Work → Work} (taken : (f j).waits = false) :
    (s.updateWork j.id f).queuedJobs.length + (if j.waits then 1 else 0) = s.queuedJobs.length := by
  obtain ⟨front, back, before, after⟩ := rows_updateWork numbered member f
  rw [queuedJobs, queuedJobs, before, after]
  cases waits : j.waits <;> simp [taken, waits]
  omega

theorem mem_queuedJobs_of_nextWork? {now : Stamp} (next : s.nextWork? scanStage now = some j) :
    j ∈ s.queuedJobs := by
  obtain ⟨member, claimable⟩ := mem_of_nextWork? next
  obtain ⟨stage, queued, _⟩ := isClaimable_iff.1 claimable
  exact List.mem_filter.2 ⟨member, Work.waits_iff.2 ⟨stage, queued⟩⟩

theorem kept_updateWork (s : Store) (id : RowId) (f : Work → Work) : s.Kept (s.updateWork id f) :=
  ⟨List.prefix_refl _, List.prefix_refl _, List.prefix_refl _⟩

theorem keys_updateWork (s : Store) (id : RowId) {f : Work → Work}
    (keeps : ∀ j, (f j).key = j.key) :
    (s.updateWork id f).works.rows.map Work.key = s.works.rows.map Work.key := by
  rw [updateWork, Table.map, List.map_map]
  apply List.map_congr_left
  intro row _
  by_cases own : row.id = id <;> simp [own, keeps]

end Store

def Phase.content? (verdict : RowId → Workspace.Reading) : Phase → Option ScanContent
  | .performed job _ => (verdict job.unit).untimed
  | _ => none

def Duty.verdict (duty : Duty) (w : Workspace) (s : Store) (unit : RowId) : Workspace.Reading :=
  (w.withStore s).reading duty.settings unit

/-- What the steps of workers make of a store. -/
structure Progress (duty : Duty) (w : Workspace) (s after : Store) : Prop where
  keyed : after.Keyed
  units : after.units = s.units
  keys : after.works.rows.map Work.key = s.works.rows.map Work.key
  advances : ∀ row ∈ after.works.rows, ∃ before ∈ s.works.rows,
    before.Advances duty.worker (duty.verdict w s) row
  kept : s.Kept after

namespace Progress

variable {duty : Duty} {w : Workspace} {s after : Store} {j row : Work}

theorem start (keyed : s.Keyed) : Progress duty w s s where
  keyed := keyed
  units := rfl
  keys := rfl
  advances row member := ⟨row, member, .rests⟩
  kept := .refl s

theorem mem_queuedJobs (progress : Progress duty w s after) (waiting : row ∈ after.queuedJobs) :
    row ∈ s.queuedJobs := by
  obtain ⟨member, waits⟩ := List.mem_filter.1 waiting
  obtain ⟨before, inside, advances⟩ := progress.advances row member
  obtain rfl := advances.eq_of_queued (Work.waits_iff.1 waits).2
  exact List.mem_filter.2 ⟨inside, waits⟩

theorem queuedJobs_eq_nil (progress : Progress duty w s after) {now : Instant} (due : s.Due now)
    (none : after.nextWork? scanStage now.text = none) : after.queuedJobs = [] := by
  rw [Store.queuedJobs, List.filter_eq_nil_iff]
  intro j member waits
  have waiting := progress.mem_queuedJobs (List.mem_filter.2 ⟨member, waits⟩)
  obtain ⟨stage, queued⟩ := Work.waits_iff.1 waits
  exact Store.nextWork?_eq_none_iff.1 none j member
    (Store.isClaimable_iff.2 ⟨stage, queued, due j waiting⟩)

theorem exists_before (progress : Progress duty w s after) (keyed : s.Keyed)
    (mine : row ∈ after.jobsAmong (s.queuedJobs.map Work.id)) :
    ∃ before ∈ s.queuedJobs, before.Advances duty.worker (duty.verdict w s) row := by
  obtain ⟨member, own⟩ := Store.mem_jobsAmong.1 mine
  obtain ⟨queued, waiting, same⟩ := List.mem_map.1 own
  obtain ⟨before, inside, advances⟩ := progress.advances row member
  have id : queued.id = before.id := same.trans (congrArg Prod.fst advances.key)
  obtain rfl := keyed.works.eq_of_id (List.mem_filter.1 waiting).1 inside id
  exact ⟨_, waiting, advances⟩

theorem claim (progress : Progress duty w s after) (waiting : j ∈ after.queuedJobs) (now : Stamp) :
    Progress duty w s (after.updateWork j.id (Store.claimed duty.worker now)) where
  keyed := progress.keyed.updateWork j.id fun _ => rfl
  units := progress.units
  keys := (after.keys_updateWork j.id fun _ => by rfl).trans progress.keys
  advances row member := by
    obtain ⟨inside, waits⟩ := List.mem_filter.1 waiting
    rcases (Store.mem_updateWork progress.keyed.works inside).1 member with rfl | ⟨other, _⟩
    · exact ⟨j, (List.mem_filter.1 (progress.mem_queuedJobs waiting)).1, .runs waits now⟩
    · exact progress.advances row other
  kept := progress.kept.trans (after.kept_updateWork j.id _)

theorem conclude (progress : Progress duty w s after) (keyed : s.Keyed)
    (mine : j ∈ after.jobsAmong (s.queuedJobs.map Work.id)) (running : j.status = .running)
    (now : Stamp) :
    Progress duty w s
      (after.updateWork j.id (Store.concluded (duty.verdict w s j.unit).kept now)) where
  keyed := progress.keyed.updateWork j.id fun _ => Store.id_concluded ..
  units := progress.units
  keys := (after.keys_updateWork j.id fun _ => by simp [Work.key]).trans progress.keys
  advances row member := by
    rcases (Store.mem_updateWork progress.keyed.works (List.mem_filter.1 mine).1).1 member with
      rfl | ⟨other, _⟩
    · obtain ⟨before, waiting, advances⟩ := progress.exists_before keyed mine
      obtain ⟨inside, waits⟩ := List.mem_filter.1 waiting
      obtain ⟨since, rfl⟩ := advances.runs_of_running waits running
      exact ⟨before, inside, .ends waits since now⟩
    · exact progress.advances row other
  kept := progress.kept.trans (after.kept_updateWork j.id _)

theorem perform (progress : Progress duty w s after) {later : Store} {reading : Workspace.Reading}
    {now : Instant} {outcome : Workspace.JobOutcome}
    (performs : Workspace.Performs after later reading now outcome) : Progress duty w s later where
  keyed := performs.keyed
  units := performs.units.trans progress.units
  keys := by rw [performs.works, progress.keys]
  advances := by
    rw [performs.works]
    exact progress.advances
  kept := progress.kept.trans performs.keeps

end Progress

/-- What workers hold, have claimed and have counted agrees with the jobs of the drain as they stand,
`mine`, and with the scans that were added. -/
structure Tally (verdict : RowId → Workspace.Reading) (phases : List Phase) (claims : List RowId)
    (drained : Drained) (mine : List Work) (added : List ScanContent) : Prop where
  held : (phases.filterMap Phase.held?).Perm ((mine.filter (·.status == .running)).map Work.id)
  claims : claims.Perm ((mine.filter (!·.waits)).map Work.id)
  processed : drained.processed = mine.countP Work.ended
  failed : drained.failed = mine.countP (·.status == .failed)
  errors : drained.errors.length = mine.countP (·.status == .failed)
  refusals : drained.refusals = []
  scans : (added.map ScanContent.untimed).Perm
    (phases.filterMap (Phase.content? verdict) ++
      (mine.filter Work.ended).filterMap fun j => (verdict j.unit).untimed)

namespace Tally

variable {verdict : RowId → Workspace.Reading} {front back : List Phase} {claims : List RowId}
  {drained : Drained} {j : Work} {mine mine₁ mine₂ : List Work} {added : List ScanContent}

theorem start (waits : ∀ j ∈ mine, j.waits) (workers : Nat) :
    Tally verdict (List.replicate workers .idle) [] {} mine [] := by
  have queued : ∀ j ∈ mine, j.status = .queued := fun j member =>
    (Work.waits_iff.1 (waits j member)).2
  have running : mine.filter (·.status == .running) = [] := by
    rw [List.filter_eq_nil_iff]
    intro j member
    simp [queued j member]
  have claimed : mine.filter (!·.waits) = [] := by
    rw [List.filter_eq_nil_iff]
    intro j member
    simp [waits j member]
  have ended : mine.filter Work.ended = [] := by
    rw [List.filter_eq_nil_iff]
    intro j member
    simp [Work.ended, queued j member]
  have failed : mine.countP (·.status == .failed) = 0 := by
    rw [List.countP_eq_zero]
    intro j member
    simp [queued j member]
  constructor
  · simp [List.filterMap_replicate, Phase.held?, running]
  · simp [claimed]
  · simp [List.countP_eq_length_filter, ended]
  · exact failed.symm
  · exact failed.symm
  · rfl
  · simp [List.filterMap_replicate, Phase.content?, ended]

theorem rest (tally : Tally verdict (front ++ .idle :: back) claims drained mine added) :
    Tally verdict (front ++ .done :: back) claims drained mine added where
  held := by simpa [List.filterMap_cons, Phase.held?] using tally.held
  claims := tally.claims
  processed := tally.processed
  failed := tally.failed
  errors := tally.errors
  refusals := tally.refusals
  scans := by simpa [List.filterMap_cons, Phase.content?] using tally.scans

theorem claim
    (tally : Tally verdict (front ++ .idle :: back) claims drained (mine₁ ++ j :: mine₂) added)
    (waits : j.waits) (worker : Bytes) (now : Stamp) :
    Tally verdict (front ++ .claimed (Store.claimed worker now j) :: back) (claims ++ [j.id])
      drained (mine₁ ++ Store.claimed worker now j :: mine₂) added := by
  have queued := (Work.waits_iff.1 waits).2
  have notEnded : j.ended = false := by simp [Work.ended, queued]
  constructor
  · have others : (front.filterMap Phase.held? ++ back.filterMap Phase.held?).Perm
        ((mine₁.filter (·.status == .running)).map Work.id
          ++ (mine₂.filter (·.status == .running)).map Work.id) := by
      simpa [List.filterMap_cons, Phase.held?, queued] using tally.held
    have both := List.perm_middle.trans ((others.cons j.id).trans List.perm_middle.symm)
    simpa [List.filterMap_cons, Phase.held?] using both
  · have others : claims.Perm
        ((mine₁.filter (!·.waits)).map Work.id ++ (mine₂.filter (!·.waits)).map Work.id) := by
      simpa [waits] using tally.claims
    have both := (List.perm_append_singleton j.id claims).trans
      ((others.cons j.id).trans List.perm_middle.symm)
    simpa using both
  · simpa [List.countP_cons, notEnded] using tally.processed
  · simpa [queued] using tally.failed
  · simpa [queued] using tally.errors
  · exact tally.refusals
  · simpa [List.filterMap_cons, Phase.content?, notEnded] using tally.scans

theorem perform
    (tally : Tally verdict (front ++ .claimed j :: back) claims drained mine added)
    (outcome : Workspace.JobOutcome) (now : Instant) :
    Tally verdict (front ++ .performed j outcome :: back) claims drained mine
      (added ++ ((verdict j.unit).content now).toList) := by
  constructor
  · simpa [List.filterMap_cons, Phase.held?] using tally.held
  · exact tally.claims
  · exact tally.processed
  · exact tally.failed
  · exact tally.errors
  · exact tally.refusals
  · have others := tally.scans
    rw [List.map_append, ← Option.toList_map, Workspace.Reading.untimed_content]
    cases stored : (verdict j.unit).untimed with
    | none => simpa [List.filterMap_cons, Phase.content?, stored] using others
    | some x =>
        have before : (added.map ScanContent.untimed).Perm
            (front.filterMap (Phase.content? verdict) ++ (back.filterMap (Phase.content? verdict)
              ++ (mine.filter Work.ended).filterMap fun j => (verdict j.unit).untimed)) := by
          simpa [List.filterMap_cons, Phase.content?] using others
        have both := (List.perm_append_singleton x _).trans
          ((before.cons x).trans List.perm_middle.symm)
        simpa [List.filterMap_cons, Phase.content?, stored] using both

theorem conclude {outcome : Workspace.JobOutcome}
    (tally : Tally verdict (front ++ .performed j outcome :: back) claims drained
      (mine₁ ++ j :: mine₂) added)
    (running : j.status = .running)
    (kept : outcome.failure.map Workspace.JobFailure.kept = (verdict j.unit).kept) (now : Stamp) :
    Tally verdict (front ++ .idle :: back) claims
      (drained.append (.ofJob (outcome.failure.map Workspace.JobFailure.error) outcome.log))
      (mine₁ ++ Store.concluded (verdict j.unit).kept now j :: mine₂) added := by
  have notWaiting : j.waits = false := by simp [Work.waits, running]
  have notEnded : j.ended = false := by simp [Work.ended, running]
  have failures : (outcome.failure.map Workspace.JobFailure.error).isSome
      = (verdict j.unit).kept.isSome := by
    rw [← kept]
    cases outcome.failure <;> rfl
  have more : (mine₁ ++ Store.concluded (verdict j.unit).kept now j :: mine₂).countP
        (·.status == .failed)
      = (mine₁ ++ j :: mine₂).countP (·.status == .failed)
        + if (verdict j.unit).kept.isSome then 1 else 0 := by
    simp only [List.countP_append, List.countP_cons, running, Store.status_concluded]
    cases (verdict j.unit).kept <;> simp
    omega
  constructor
  · have both : (front.filterMap Phase.held? ++ j.id :: back.filterMap Phase.held?).Perm
        ((mine₁.filter (·.status == .running)).map Work.id
          ++ j.id :: (mine₂.filter (·.status == .running)).map Work.id) := by
      simpa [List.filterMap_cons, Phase.held?, running] using tally.held
    have others := (List.perm_middle.symm.trans (both.trans List.perm_middle)).cons_inv
    have settled : ¬ (if (verdict j.unit).kept.isSome then Status.failed else .ok) = .running := by
      split_ifs <;> decide
    simpa [List.filterMap_cons, List.filter_cons, Phase.held?, settled] using others
  · simpa [notWaiting] using tally.claims
  · rw [Drained.append, tally.processed, Drained.processed_ofJob]
    simp [notEnded]
    omega
  · rw [Drained.append, tally.failed, Drained.failed_ofJob, failures, more]
  · rw [Drained.append, List.length_append, tally.errors, Drained.length_errors_ofJob, failures,
      more]
  · rw [Drained.append, tally.refusals, Drained.refusals_ofJob]
    rfl
  · -- The scan counts for the job now, no longer for the worker that held it.
    have before := tally.scans
    cases stored : (verdict j.unit).untimed with
    | none => simpa [List.filterMap_cons, Phase.content?, notEnded, stored] using before
    | some x =>
        have here : (added.map ScanContent.untimed).Perm (x :: (front ++ back).filterMap
            (Phase.content? verdict) ++ ((mine₁ ++ mine₂).filter Work.ended).filterMap
              fun j => (verdict j.unit).untimed) := by
          refine before.trans ?_
          simp [Phase.content?, notEnded, stored]
        refine here.trans ?_
        simp only [List.filterMap_append, List.filter_append, List.filter_cons, List.filterMap_cons,
          List.cons_append, Work.ended_concluded, if_true, Phase.content?, Store.unit_concluded,
          stored, ← List.append_assoc]
        exact List.perm_middle.symm

end Tally

/-- The job that a worker holds runs, and is one of the drain. -/
def Phase.Fits (verdict : RowId → Workspace.Reading) (after : Store) (ids : List RowId) :
    Phase → Prop
  | .idle => True
  | .claimed job => job ∈ after.jobsAmong ids ∧ job.status = .running
  | .performed job outcome =>
    (job ∈ after.jobsAmong ids ∧ job.status = .running) ∧
      outcome.failure.map Workspace.JobFailure.kept = (verdict job.unit).kept
  | .done => after.queuedJobs = []

theorem Phase.Fits.exists_running {verdict : RowId → Workspace.Reading} {after : Store}
    {ids : List RowId} {phase : Phase} (fits : phase.Fits verdict after ids) {id : RowId}
    (held : phase.held? = some id) :
    ∃ job ∈ after.jobsAmong ids, job.id = id ∧ job.status = .running := by
  cases phase with
  | idle => cases held
  | claimed job => exact ⟨job, fits.1, Option.some.inj held, fits.2⟩
  | performed job outcome => exact ⟨job, fits.1.1, Option.some.inj held, fits.1.2⟩
  | done => cases held

theorem Phase.Fits.congr {verdict : RowId → Workspace.Reading} {after later : Store}
    {ids : List RowId} {phase : Phase} (fits : phase.Fits verdict after ids)
    (works : later.works = after.works) : phase.Fits verdict later ids := by
  have mine : later.jobsAmong ids = after.jobsAmong ids := by
    rw [Store.jobsAmong, works, Store.jobsAmong]
  have queued : later.queuedJobs = after.queuedJobs := by
    rw [Store.queuedJobs, works, Store.queuedJobs]
  cases phase with
  | idle => trivial
  | claimed job => exact ⟨mine ▸ fits.1, fits.2⟩
  | performed job outcome => exact ⟨⟨mine ▸ fits.1.1, fits.1.2⟩, fits.2⟩
  | done => exact queued.trans fits

theorem Phase.Fits.updateWork {verdict : RowId → Workspace.Reading} {after : Store}
    {ids : List RowId} {phase : Phase} (fits : phase.Fits verdict after ids)
    (numbered : after.works.Numbered Work.id) {j : Work} (member : j ∈ after.works.rows)
    {f : Work → Work} (taken : (f j).waits = false) (apart : phase.held? ≠ some j.id) :
    phase.Fits verdict (after.updateWork j.id f) ids := by
  have held {job : Work} (mine : job ∈ after.jobsAmong ids) (other : job.id ≠ j.id) :
      job ∈ (after.updateWork j.id f).jobsAmong ids := by
    obtain ⟨inside, own⟩ := List.mem_filter.1 mine
    exact List.mem_filter.2 ⟨(Store.mem_updateWork numbered member).2 (.inr ⟨inside, other⟩), own⟩
  cases phase with
  | idle => trivial
  | claimed job => exact ⟨held fits.1 fun same => apart (congrArg some same), fits.2⟩
  | performed job outcome =>
      exact ⟨⟨held fits.1.1 fun same => apart (congrArg some same), fits.1.2⟩, fits.2⟩
  | done =>
      rw [Fits, Store.queuedJobs, List.filter_eq_nil_iff] at fits ⊢
      intro row inside
      rcases (Store.mem_updateWork numbered member).1 inside with rfl | ⟨before, _⟩
      · simp [taken]
      · exact fits row before

/-- Where workers stand after some turns, `past`, and what they have made of the store that they
began with. -/
structure Course (duty : Duty) (w : Workspace) (s : Store) (workers : Nat) (past : List Turn)
    (c : Crew) (after : Store) (added : List ScanContent) : Prop where
  workspace : c.workspace = w.withStore after
  progress : Progress duty w s after
  fits : ∀ phase ∈ c.phases, phase.Fits (duty.verdict w s) after (s.queuedJobs.map Work.id)
  tally : Tally (duty.verdict w s) c.phases (c.claims.map Prod.snd) c.drained
    (after.jobsAmong (s.queuedJobs.map Work.id)) added
  contents : after.contents = s.contents ++ added
  times : ∀ x ∈ added, ∃ t ∈ past, x.scan.startedAt = t.now.text ∧ x.scan.finishedAt = t.now.text
  size : c.phases.length = workers
  spent : past.length + 3 * after.queuedJobs.length + (c.phases.map Phase.ahead).sum
    = 3 * s.queuedJobs.length + workers

theorem exists_split_of_getElem? {α : Type} {l : List α} {i : Nat} {a : α} (found : l[i]? = some a) :
    ∃ front back, l = front ++ a :: back ∧ ∀ b, l.set i b = front ++ b :: back := by
  obtain ⟨inside, rfl⟩ := List.getElem?_eq_some_iff.1 found
  refine ⟨l.take i, l.drop (i + 1), ?_, ?_⟩
  · rw [List.getElem_cons_drop, List.take_append_drop]
  · intro b
    rw [List.set_eq_take_append_cons_drop, if_pos inside]

theorem Crew.exists_phase {duty : Duty} {c next : Crew} {t : Turn}
    (stepped : c.step duty t = some next) :
    ∃ phase front back, c.phases[t.worker]? = some phase ∧ c.phases = front ++ phase :: back ∧
      ∀ other, c.phases.set t.worker other = front ++ other :: back := by
  rw [step] at stepped
  cases found : c.phases[t.worker]? with
  | none =>
      rw [found] at stepped
      cases stepped
  | some phase =>
      obtain ⟨front, back, place, set⟩ := exists_split_of_getElem? found
      exact ⟨phase, front, back, rfl, place, set⟩

theorem forall_mem_middle {α : Type} {p : α → Prop} {front back : List α} {a : α} :
    (∀ x ∈ front ++ a :: back, p x) ↔ p a ∧ ∀ x ∈ front ++ back, p x := by
  rw [← List.forall_mem_cons]
  exact forall_congr' fun x => imp_congr_left List.perm_middle.mem_iff

namespace Course

variable {duty : Duty} {w : Workspace} {s after later : Store} {workers : Nat} {past : List Turn}
  {c : Crew} {added : List ScanContent} {t : Turn} {front back : List Phase} {j : Work}

theorem start (duty : Duty) (w : Workspace) (keyed : s.Keyed) (workers : Nat) :
    Course duty w s workers [] (.start (w.withStore s) workers) s [] := by
  have mine : ∀ j ∈ s.jobsAmong (s.queuedJobs.map Work.id), j.waits := by
    rw [keyed.jobsAmong_queuedJobs]
    exact fun j waiting => (List.mem_filter.1 waiting).2
  constructor
  · rfl
  · exact .start keyed
  · intro phase member
    rw [List.eq_of_mem_replicate member]
    trivial
  · exact .start mine workers
  · exact (List.append_nil _).symm
  · intro x member
    cases member
  · exact List.length_replicate
  · simp [Crew.start, Phase.ahead]

theorem nodup_held (course : Course duty w s workers past c after added) :
    (c.phases.filterMap Phase.held?).Nodup := by
  rw [course.tally.held.nodup_iff]
  have part : ((after.jobsAmong (s.queuedJobs.map Work.id)).filter (·.status == .running)).Sublist
      after.works.rows := List.filter_sublist.trans List.filter_sublist
  exact course.progress.keyed.works.nodup.sublist (part.map Work.id)

theorem sum_ahead (front : List Phase) (phase : Phase) (back : List Phase) :
    ((front ++ phase :: back).map Phase.ahead).sum
      = phase.ahead + ((front ++ back).map Phase.ahead).sum := by
  simp only [List.map_append, List.map_cons, List.sum_append, List.sum_cons]
  omega

theorem times_concat
    (times : ∀ x ∈ added, ∃ turn ∈ past,
      x.scan.startedAt = turn.now.text ∧ x.scan.finishedAt = turn.now.text) (t : Turn) :
    ∀ x ∈ added, ∃ turn ∈ past ++ [t],
      x.scan.startedAt = turn.now.text ∧ x.scan.finishedAt = turn.now.text := by
  intro x member
  obtain ⟨turn, inside, stamps⟩ := times x member
  exact ⟨turn, List.mem_append_left _ inside, stamps⟩

theorem rest (course : Course duty w s workers past c after added)
    (place : c.phases = front ++ .idle :: back)
    (set : ∀ phase, c.phases.set t.worker phase = front ++ phase :: back)
    (none : after.queuedJobs = []) :
    Course duty w s workers (past ++ [t]) (c.move t.worker (w.withStore after) .done {}) after
      added := by
  obtain ⟨-, progress, fits, tally, contents, times, size, spent⟩ := course
  rw [place] at fits tally size spent
  constructor
  · rfl
  · exact progress
  · simp only [Crew.move, set]
    exact forall_mem_middle.2 ⟨none, (forall_mem_middle.1 fits).2⟩
  · simp only [Crew.move, set, Drained.append_empty]
    exact tally.rest
  · exact contents
  · exact times_concat times t
  · simpa [Crew.move, set] using size
  · simp only [Crew.move, set, sum_ahead, Phase.ahead, List.length_append, List.length_singleton]
      at spent ⊢
    omega

theorem claim (course : Course duty w s workers past c after added)
    (place : c.phases = front ++ .idle :: back)
    (set : ∀ phase, c.phases.set t.worker phase = front ++ phase :: back)
    (waiting : j ∈ after.queuedJobs) :
    Course duty w s workers (past ++ [t])
      { c.move t.worker (w.withStore (after.updateWork j.id (Store.claimed duty.worker t.now.text)))
          (.claimed (Store.claimed duty.worker t.now.text j)) {} with
        claims := c.claims ++ [(t.worker, j.id)] }
      (after.updateWork j.id (Store.claimed duty.worker t.now.text)) added := by
  obtain ⟨-, progress, fits, tally, contents, times, size, spent⟩ := course
  rw [place] at fits tally size spent
  have numbered := progress.keyed.works
  obtain ⟨member, waits⟩ := List.mem_filter.1 waiting
  have mine : j ∈ after.jobsAmong (s.queuedJobs.map Work.id) :=
    Store.mem_jobsAmong.2 ⟨member, List.mem_map_of_mem (progress.mem_queuedJobs waiting)⟩
  obtain ⟨mine₁, mine₂, split, changed⟩ := Store.jobsAmong_updateWork numbered mine
    (f := Store.claimed duty.worker t.now.text) rfl
  constructor
  · rfl
  · exact progress.claim waiting t.now.text
  · simp only [Crew.move, set]
    refine forall_mem_middle.2 ⟨⟨?_, rfl⟩, ?_⟩
    · rw [changed]
      exact List.mem_append_right _ List.mem_cons_self
    · intro phase inside
      have own := (forall_mem_middle.1 fits).2 phase inside
      -- What another worker holds runs, and this job waited, so the other one keeps what it holds.
      apply own.updateWork numbered member (Work.waits_claimed ..)
      intro same
      obtain ⟨job, held, id, running⟩ := own.exists_running same
      obtain rfl := numbered.eq_of_id (List.mem_filter.1 held).1 member id
      rw [(Work.waits_iff.1 waits).2] at running
      cases running
  · simp only [Crew.move, set, Drained.append_empty, List.map_append, changed]
    rw [split] at tally
    exact tally.claim waits duty.worker t.now.text
  · exact contents
  · exact times_concat times t
  · simpa [Crew.move, set] using size
  · have fewer := Store.length_queuedJobs_updateWork numbered member
      (f := Store.claimed duty.worker t.now.text) (Work.waits_claimed ..)
    simp only [Crew.move, set, sum_ahead, Phase.ahead, List.length_append, List.length_singleton,
      waits, if_true] at spent fewer ⊢
    omega

theorem perform (course : Course duty w s workers past c after added)
    (place : c.phases = front ++ .claimed j :: back)
    (set : ∀ phase, c.phases.set t.worker phase = front ++ phase :: back)
    {outcome : Workspace.JobOutcome}
    (performs : Workspace.Performs after later (duty.verdict w s j.unit) t.now outcome) :
    Course duty w s workers (past ++ [t])
      (c.move t.worker (w.withStore later) (.performed j outcome) {}) later
      (added ++ ((duty.verdict w s j.unit).content t.now).toList) := by
  obtain ⟨-, progress, fits, tally, contents, times, size, spent⟩ := course
  rw [place] at fits tally size spent
  have still : ∀ phase ∈ front ++ .claimed j :: back,
      phase.Fits (duty.verdict w s) later (s.queuedJobs.map Work.id) :=
    fun phase inside => (fits phase inside).congr performs.works
  constructor
  · rfl
  · exact progress.perform performs
  · obtain ⟨held, others⟩ := forall_mem_middle.1 still
    simp only [Crew.move, set]
    exact forall_mem_middle.2 ⟨⟨held, performs.kept⟩, others⟩
  · simp only [Crew.move, set, Drained.append_empty, Store.jobsAmong, performs.works]
    exact tally.perform outcome t.now
  · rw [performs.contents, contents, List.append_assoc]
  · intro x member
    rcases List.mem_append.1 member with before | new
    · exact times_concat times t x before
    · refine ⟨t, List.mem_append_right _ (List.mem_singleton_self t), ?_⟩
      exact Workspace.Reading.times_content (Option.mem_toList.1 new)
  · simpa [Crew.move, set] using size
  · rw [Store.queuedJobs, performs.works, ← Store.queuedJobs]
    simp only [Crew.move, set, sum_ahead, Phase.ahead, List.length_append, List.length_singleton]
      at spent ⊢
    omega

theorem conclude (course : Course duty w s workers past c after added) (keyed : s.Keyed)
    {outcome : Workspace.JobOutcome} (place : c.phases = front ++ .performed j outcome :: back)
    (set : ∀ phase, c.phases.set t.worker phase = front ++ phase :: back) :
    Course duty w s workers (past ++ [t])
      (c.move t.worker (w.withStore (after.updateWork j.id
          (Store.concluded (duty.verdict w s j.unit).kept t.now.text))) .idle
        (.ofJob (outcome.failure.map Workspace.JobFailure.error) outcome.log))
      (after.updateWork j.id (Store.concluded (duty.verdict w s j.unit).kept t.now.text)) added := by
  have apart := course.nodup_held
  obtain ⟨-, progress, fits, tally, contents, times, size, spent⟩ := course
  rw [place] at fits tally size spent apart
  have numbered := progress.keyed.works
  obtain ⟨⟨⟨mine, running⟩, kept⟩, others⟩ := forall_mem_middle.1 fits
  have member := (List.mem_filter.1 mine).1
  have notWaiting : j.waits = false := by simp [Work.waits, running]
  obtain ⟨mine₁, mine₂, split, changed⟩ := Store.jobsAmong_updateWork numbered mine
    (f := Store.concluded (duty.verdict w s j.unit).kept t.now.text) (Store.id_concluded ..)
  constructor
  · rfl
  · exact progress.conclude keyed mine running t.now.text
  · simp only [Crew.move, set]
    refine forall_mem_middle.2 ⟨trivial, ?_⟩
    intro phase inside
    -- The job ran already, so only the tally tells that no other worker holds it.
    apply (others phase inside).updateWork numbered member (Work.waits_concluded ..)
    intro same
    have split : ((front ++ .performed j outcome :: back).filterMap Phase.held?).Perm
        (j.id :: (front ++ back).filterMap Phase.held?) := List.perm_middle.filterMap _
    exact (List.nodup_cons.1 (split.nodup_iff.1 apart)).1
      (List.mem_filterMap.2 ⟨phase, inside, same⟩)
  · simp only [Crew.move, set, changed]
    rw [split] at tally
    exact tally.conclude running kept t.now.text
  · exact contents
  · exact times_concat times t
  · simpa [Crew.move, set] using size
  · have same := Store.length_queuedJobs_updateWork numbered member
      (f := Store.concluded (duty.verdict w s j.unit).kept t.now.text) (Work.waits_concluded ..)
    simp only [Crew.move, set, sum_ahead, Phase.ahead, List.length_append, List.length_singleton,
      notWaiting, Bool.false_eq_true, if_false] at spent same ⊢
    omega

theorem step (course : Course duty w s workers past c after added) (keyed : s.Keyed)
    (due : s.Due t.now) {next : Crew} (stepped : c.step duty t = some next) :
    ∃ later more, Course duty w s workers (past ++ [t]) next later more := by
  obtain ⟨phase, front, back, found, place, set⟩ := Crew.exists_phase stepped
  rw [Crew.step, found] at stepped
  -- Claiming and concluding change a job; performing adds a scan and leaves all jobs as they are.
  cases phase with
  | idle =>
      simp only [course.workspace, Workspace.claim_withStore, Store.claimWork] at stepped
      cases claimed : after.nextWork? scanStage t.now.text with
      | none =>
          have idle := course.progress.queuedJobs_eq_nil due claimed
          rw [claimed] at stepped
          cases stepped
          exact ⟨after, added, course.rest place set idle⟩
      | some j =>
          have waiting := Store.mem_queuedJobs_of_nextWork? claimed
          rw [claimed] at stepped
          cases stepped
          exact ⟨_, added, course.claim place set waiting⟩
  | claimed j =>
      obtain ⟨outcome, later, performed, performs⟩ := Workspace.performs_withStore w
        course.progress.keyed duty.settings t.now j
      rw [Workspace.reading_withStore w course.progress.units] at performs
      simp only [course.workspace, performed] at stepped
      cases stepped
      exact ⟨later, _, course.perform place set performs⟩
  | performed j outcome =>
      have fits := course.fits
      rw [place] at fits
      obtain ⟨⟨⟨mine, running⟩, kept⟩, _⟩ := forall_mem_middle.1 fits
      have concluded := Workspace.conclude_withStore w (List.mem_filter.1 mine).1 running
        outcome.failure t.now
      simp only [course.workspace, concluded, kept] at stepped
      cases stepped
      exact ⟨_, added, course.conclude keyed place set⟩
  | done => cases stepped

theorem run (course : Course duty w s workers past c after added) (keyed : s.Keyed)
    {turns : List Turn} (due : ∀ t ∈ turns, s.Due t.now) {last : Crew}
    (ran : c.run duty turns = some last) :
    ∃ later more, Course duty w s workers (past ++ turns) last later more := by
  -- `Course` speaks of the store at the start, so steps need not be added up.
  induction turns generalizing past c after added with
  | nil =>
      cases ran
      rw [List.append_nil]
      exact ⟨after, added, course⟩
  | cons t turns ih =>
      obtain ⟨next, stepped, rest⟩ := Option.bind_eq_some_iff.1 ran
      obtain ⟨later, more, first⟩ := course.step keyed (due t List.mem_cons_self) stepped
      rw [List.append_cons]
      exact ih first (fun t' inside => due t' (List.mem_cons_of_mem t inside)) rest

end Course

end AsnLexis
