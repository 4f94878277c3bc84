import AsnLexis.Proofs.Course
import Mathlib

/-! Draining the queue with workers side by side. Whatever the order of their steps, they come to an
end, every job that was queued is claimed once and ends as its unit and its file decide, and no other
job is touched. -/

namespace AsnLexis

def Work.untimed (j : Work) : Work := { j with startedAt := none, finishedAt := none }

/-- What a drain makes of a job: one that did not wait is as it was, one that waited was claimed once
and concluded. -/
inductive Work.Settles (worker : Bytes) (verdict : RowId → Workspace.Reading) (before : Work) :
    Work → Prop
  | rests (idle : ¬ before.waits) : Settles worker verdict before before
  | ends (waits : before.waits) (since now : Stamp) :
      Settles worker verdict before
        (Store.concluded (verdict before.unit).kept now (Store.claimed worker since before))

theorem Work.Settles.untimed_eq {worker : Bytes} {verdict : RowId → Workspace.Reading}
    {before row other : Work} (first : before.Settles worker verdict row)
    (second : before.Settles worker verdict other) : row.untimed = other.untimed := by
  cases first with
  | rests idle =>
      cases second with
      | rests => rfl
      | ends waits => exact absurd waits idle
  | ends waits =>
      cases second with
      | rests idle => exact absurd waits idle
      | ends => cases (verdict before.unit).kept <;> rfl

namespace Store

variable {s : Store}

theorem nodup_queuedJobs (keyed : s.Keyed) : (s.queuedJobs.map Work.id).Nodup :=
  keyed.works.nodup.sublist (List.filter_sublist.map Work.id)

theorem keys_jobsAmong {after : Store}
    (keys : after.works.rows.map Work.key = s.works.rows.map Work.key) (ids : List RowId) :
    (after.jobsAmong ids).map Work.key = (s.jobsAmong ids).map Work.key := by
  have pick (rows : List Work) : (rows.filter (ids.contains ·.id)).map Work.key
      = (rows.map Work.key).filter (ids.contains ·.1) := by
    rw [List.filter_map]
    rfl
  rw [jobsAmong, jobsAmong, pick, pick, keys]

end Store

namespace Progress

variable {duty : Duty} {w : Workspace} {s after : Store}

theorem forall₂ (progress : Progress duty w s after) (keyed : s.Keyed) :
    List.Forall₂ (Work.Advances duty.worker (duty.verdict w s)) s.works.rows after.works.rows := by
  have keys := progress.keys
  rw [List.forall₂_iff_get]
  refine ⟨by simpa using (congrArg List.length keys).symm, ?_⟩
  intro i inside inside'
  obtain ⟨before, member, advances⟩ := progress.advances _ (List.get_mem after.works.rows ⟨i, inside'⟩)
  have here : (after.works.rows.map Work.key)[i]? = (s.works.rows.map Work.key)[i]? := by rw [keys]
  rw [List.getElem?_map, List.getElem?_map, List.getElem?_eq_getElem inside,
    List.getElem?_eq_getElem inside', Option.map_some, Option.map_some, Option.some_inj] at here
  have same : before.id = s.works.rows[i].id :=
    (congrArg Prod.fst advances.key).symm.trans (congrArg Prod.fst here)
  obtain rfl := keyed.works.eq_of_id member (List.getElem_mem inside) same
  exact advances

end Progress

def Crew.store (c : Crew) : Store := c.workspace.link.store

/-- What a drain leaves behind, whichever worker took which turn. -/
structure Drains (duty : Duty) (w : Workspace) (s : Store) (turns : List Turn) (c : Crew) :
    Prop where
  workspace : c.workspace = w.withStore c.store
  jobs : List.Forall₂ (Work.Settles duty.worker (duty.verdict w s)) s.works.rows c.store.works.rows
  claims : (c.claims.map Prod.snd).Perm (s.queuedJobs.map Work.id)
  once : (c.claims.map Prod.snd).Nodup
  ended : ∀ row ∈ c.store.jobsAmong (s.queuedJobs.map Work.id), row.ended
  processed : c.drained.processed = s.queuedJobs.length
  failed : c.drained.failed = c.drained.errors.length
  errors : c.drained.errors.length
    = (c.store.jobsAmong (s.queuedJobs.map Work.id)).countP (·.status == .failed)
  refusals : c.drained.refusals = []
  units : c.store.units = s.units
  kept : s.Kept c.store
  scans : ∃ added, c.store.contents = s.contents ++ added ∧
    (added.map ScanContent.untimed).Perm
      (s.queuedJobs.filterMap fun j => (duty.verdict w s j.unit).untimed) ∧
    ∀ x ∈ added, ∃ t ∈ turns, x.scan.startedAt = t.now.text ∧ x.scan.finishedAt = t.now.text

theorem Crew.Finished.filterMap_eq_nil {c : Crew} (finished : c.Finished) {α : Type}
    {f : Phase → Option α} (none : f .done = none) : c.phases.filterMap f = [] := by
  rw [List.filterMap_eq_nil_iff]
  intro phase member
  rw [finished phase member, none]

theorem Tally.whole {verdict : RowId → Workspace.Reading} {c : Crew} {claims : List RowId}
    {mine : List Work} {added : List ScanContent}
    (tally : Tally verdict c.phases claims c.drained mine added) (finished : c.Finished)
    (ended : ∀ row ∈ mine, row.ended) :
    claims.Perm (mine.map Work.id) ∧ c.drained.processed = mine.length ∧
      (added.map ScanContent.untimed).Perm (mine.filterMap fun j => (verdict j.unit).untimed) := by
  have all : mine.filter Work.ended = mine := List.filter_eq_self.2 ended
  have taken : mine.filter (!·.waits) = mine :=
    List.filter_eq_self.2 fun row member => by simp [Work.not_waits_of_ended (ended row member)]
  refine ⟨?_, ?_, ?_⟩
  · simpa only [taken] using tally.claims
  · rw [tally.processed, List.countP_eq_length_filter, all]
  · have scans := tally.scans
    rwa [finished.filterMap_eq_nil rfl, List.nil_append, all] at scans

namespace Course

variable {duty : Duty} {w : Workspace} {s after : Store} {workers : Nat} {turns : List Turn}
  {c : Crew} {added : List ScanContent}

theorem queuedJobs_eq_nil (course : Course duty w s workers turns c after added)
    (some : 0 < workers) (finished : c.Finished) : after.queuedJobs = [] := by
  have inside : 0 < c.phases.length := course.size.symm ▸ some
  have fits := course.fits _ (List.getElem_mem inside)
  rwa [finished _ (List.getElem_mem inside)] at fits

theorem not_running (course : Course duty w s workers turns c after added) (finished : c.Finished) :
    ∀ row ∈ after.jobsAmong (s.queuedJobs.map Work.id), row.status ≠ .running := by
  intro row mine running
  have held := course.tally.held
  rw [finished.filterMap_eq_nil rfl] at held
  have none := List.map_eq_nil_iff.1 held.nil_eq.symm
  rw [List.filter_eq_nil_iff] at none
  exact none row mine (by simp [running])

theorem settles (course : Course duty w s workers turns c after added) (some : 0 < workers)
    (finished : c.Finished) {before row : Work} (inside : before ∈ s.works.rows)
    (member : row ∈ after.works.rows)
    (advances : before.Advances duty.worker (duty.verdict w s) row) :
    before.Settles duty.worker (duty.verdict w s) row := by
  cases advances with
  | rests =>
      refine .rests fun waits => ?_
      have waiting : before ∈ after.queuedJobs := List.mem_filter.2 ⟨member, waits⟩
      rw [course.queuedJobs_eq_nil some finished] at waiting
      cases waiting
  | runs waits since =>
      have queued : before.id ∈ s.queuedJobs.map Work.id :=
        List.mem_map_of_mem (List.mem_filter.2 ⟨inside, waits⟩)
      exact absurd rfl (course.not_running finished _ (Store.mem_jobsAmong.2 ⟨member, queued⟩))
  | ends waits since now => exact .ends waits since now

theorem ended (course : Course duty w s workers turns c after added) (keyed : s.Keyed)
    (some : 0 < workers) (finished : c.Finished) :
    ∀ row ∈ after.jobsAmong (s.queuedJobs.map Work.id), row.ended := by
  intro row mine
  obtain ⟨before, waiting, advances⟩ := course.progress.exists_before keyed mine
  obtain ⟨inside, waits⟩ := List.mem_filter.1 waiting
  cases course.settles some finished inside (List.mem_filter.1 mine).1 advances with
  | rests idle => exact absurd waits idle
  | ends => exact Work.ended_concluded ..

theorem drains (course : Course duty w s workers turns c after added) (keyed : s.Keyed)
    (some : 0 < workers) (finished : c.Finished) : Drains duty w s turns c := by
  obtain rfl : c.store = after := by
    rw [Crew.store, course.workspace]
    rfl
  have ended := course.ended keyed some finished
  -- Jobs keep ids and units, so what the tally says of the jobs as they are now it says of those
  -- that waited at the beginning.
  have keys := Store.keys_jobsAmong course.progress.keys (s.queuedJobs.map Work.id)
  rw [keyed.jobsAmong_queuedJobs] at keys
  have ids : (c.store.jobsAmong (s.queuedJobs.map Work.id)).map Work.id
      = s.queuedJobs.map Work.id := by
    simpa [Function.comp_def, Work.key] using congrArg (List.map Prod.fst) keys
  have units : (c.store.jobsAmong (s.queuedJobs.map Work.id)).map Work.unit
      = s.queuedJobs.map Work.unit := by
    simpa [Function.comp_def, Work.key] using congrArg (List.map Prod.snd) keys
  obtain ⟨claims, processed, scans⟩ := course.tally.whole finished ended
  rw [ids] at claims
  constructor
  · exact course.workspace
  · have jobs := course.progress.forall₂ keyed
    rw [List.forall₂_iff_zip] at jobs ⊢
    refine ⟨jobs.1, fun pair => ?_⟩
    obtain ⟨inside, member⟩ := List.of_mem_zip pair
    exact course.settles some finished inside member (jobs.2 pair)
  · exact claims
  · exact claims.nodup_iff.2 (Store.nodup_queuedJobs keyed)
  · exact ended
  · rw [processed]
    simpa using congrArg List.length keys
  · exact course.tally.failed.trans course.tally.errors.symm
  · exact course.tally.errors
  · exact course.tally.refusals
  · exact course.progress.units
  · exact course.progress.kept
  · refine ⟨added, course.contents, ?_, course.times⟩
    have verdicts (jobs : List Work) : (jobs.filterMap fun j => (duty.verdict w s j.unit).untimed)
        = (jobs.map Work.unit).filterMap fun unit => (duty.verdict w s unit).untimed := by
      rw [List.filterMap_map]
      rfl
    rwa [verdicts, units, ← verdicts] at scans

end Course

theorem Work.Settles.map_untimed {worker : Bytes} {verdict : RowId → Workspace.Reading}
    {rows one two : List Work} (first : List.Forall₂ (Work.Settles worker verdict) rows one)
    (second : List.Forall₂ (Work.Settles worker verdict) rows two) :
    one.map Work.untimed = two.map Work.untimed := by
  induction first generalizing two with
  | nil =>
      cases second
      rfl
  | cons settles _ ih =>
      cases second with
      | cons settles' rest =>
          rw [List.map_cons, List.map_cons, settles.untimed_eq settles', ih rest]

def ScanContent.timed (now : Stamp) (x : ScanContent) : ScanContent :=
  { x with scan := { x.scan with startedAt := now, finishedAt := now } }

theorem ScanContent.map_timed {now : Stamp} {scans : List ScanContent}
    (times : ∀ x ∈ scans, x.scan.startedAt = now ∧ x.scan.finishedAt = now) :
    (scans.map untimed).map (timed now) = scans := by
  rw [List.map_map]
  refine (List.map_congr_left fun x member => ?_).trans (List.map_id scans)
  rcases x with ⟨⟨_, _, _, _, _, _, _, _, started, finished⟩, _, _⟩
  obtain ⟨rfl, same⟩ : started = now ∧ finished = now := times _ member
  rw [same]
  rfl

namespace Drains

variable {duty : Duty} {w : Workspace} {s : Store} {turns turns' : List Turn} {c c' : Crew}

theorem untimed_contents (first : Drains duty w s turns c) (second : Drains duty w s turns' c') :
    (c.store.contents.map ScanContent.untimed).Perm
      (c'.store.contents.map ScanContent.untimed) := by
  obtain ⟨added, contents, scans, _⟩ := first.scans
  obtain ⟨added', contents', scans', _⟩ := second.scans
  rw [contents, contents', List.map_append, List.map_append]
  exact (scans.trans scans'.symm).append_left _

theorem contents_perm (first : Drains duty w s turns c) (second : Drains duty w s turns' c')
    {now : Instant} (times : ∀ t ∈ turns ++ turns', t.now = now) :
    c.store.contents.Perm c'.store.contents := by
  obtain ⟨added, contents, scans, at₁⟩ := first.scans
  obtain ⟨added', contents', scans', at₂⟩ := second.scans
  have same := (scans.trans scans'.symm).map (ScanContent.timed now.text)
  rw [ScanContent.map_timed, ScanContent.map_timed] at same
  · rw [contents, contents']
    exact same.append_left _
  · intro x member
    obtain ⟨t, inside, stamps⟩ := at₂ x member
    rwa [times t (List.mem_append_right _ inside)] at stamps
  · intro x member
    obtain ⟨t, inside, stamps⟩ := at₁ x member
    rwa [times t (List.mem_append_left _ inside)] at stamps

end Drains

namespace Course

variable {duty : Duty} {w : Workspace} {s after : Store} {workers : Nat} {past : List Turn}
  {c : Crew} {added : List ScanContent}

/-- A worker that works until it is idle is done then: it cannot have got a job in each of its
rounds, as it makes one more than there were jobs. -/
theorem run_workUntilIdle (course : Course duty w s workers past c after added) (keyed : s.Keyed)
    {now : Instant} (due : s.Due now) {i : Nat} (found : c.phases[i]? = some .idle)
    {part : Drained} {w' : Workspace}
    (worked : c.workspace.workUntilIdle scanStage duty.worker duty.settings now = (part, w')) :
    ∃ n last later more, c.run duty (List.replicate n ⟨i, now⟩) = some last ∧
      last.workspace = w' ∧ last.drained = c.drained.append part ∧
      last.phases = c.phases.set i .done ∧
      Course duty w s workers (past ++ List.replicate n ⟨i, now⟩) last later more := by
  obtain ⟨n, last, ran, workspace, drained, phases⟩ := Crew.run_rounds found worked
  have due : ∀ t ∈ List.replicate n (Turn.mk i now), s.Due t.now := by
    intro t member
    rw [List.eq_of_mem_replicate member]
    exact due
  obtain ⟨later, more, course'⟩ := course.run keyed due ran
  refine ⟨n, last, later, more, ran, workspace, drained, ?_, course'⟩
  rcases phases with set | ⟨same, rounds⟩
  · exact set
  · -- The phases are as before, so the turns of the rounds are paid for by jobs that waited.
    have queued : c.workspace.queued scanStage = after.queuedJobs.length := by
      rw [course.workspace]
      rfl
    have spent := course.spent
    have spent' := course'.spent
    rw [same, List.length_append, List.length_replicate] at spent'
    omega

theorem run_workInTurn (course : Course duty w s workers past c after added) (keyed : s.Keyed)
    {now : Instant} (due : s.Due now) {front : List Phase} {idle : Nat}
    (place : c.phases = front ++ List.replicate idle .idle) (done : ∀ phase ∈ front, phase = .done)
    {part : Drained} {w' : Workspace}
    (worked : Workspace.workInTurn scanStage duty.worker duty.settings now idle c.workspace
      = (part, w')) :
    ∃ turns last, (∀ t ∈ turns, t.now = now) ∧ c.run duty turns = some last ∧ last.Finished ∧
      last.workspace = w' ∧ last.drained = c.drained.append part := by
  induction idle generalizing past c after added front part w' with
  | zero =>
      cases worked
      refine ⟨[], c, by simp, rfl, ?_, rfl, (Drained.append_empty _).symm⟩
      rw [Crew.Finished, place]
      simpa using done
  | succ idle ih =>
      have found : c.phases[front.length]? = some .idle := by simp [place, List.replicate_succ]
      rw [Workspace.workInTurn] at worked
      cases first : c.workspace.workUntilIdle scanStage duty.worker duty.settings now with
      | mk part₁ w₁ =>
          obtain ⟨n, middle, later, more, ran, rfl, drained, phases, course₁⟩ :=
            course.run_workUntilIdle keyed due found first
          have place₁ : middle.phases = (front ++ [.done]) ++ List.replicate idle .idle := by
            simp [phases, place, List.replicate_succ]
          have done₁ : ∀ phase ∈ front ++ [.done], phase = .done := by
            simpa [or_imp, forall_and] using done
          obtain ⟨turns, last, times, ran₂, finished, workspace, drained₂⟩ :=
            ih course₁ place₁ done₁ rfl
          rw [first] at worked
          cases worked
          refine ⟨List.replicate n ⟨front.length, now⟩ ++ turns, last, ?_, ?_, finished, workspace, ?_⟩
          · intro t member
            rcases List.mem_append.1 member with own | other
            · rw [List.eq_of_mem_replicate own]
            · exact times t other
          · rw [Crew.run_append, ran]
            exact ran₂
          · rw [drained₂, drained, Drained.append_assoc]

end Course

/-- Turns that workers on a store can take, each when every job that waits is available. There is
one worker at least. -/
structure Interleaves (duty : Duty) (w : Workspace) (s : Store) (workers : Int) (turns : List Turn)
    (c : Crew) : Prop where
  due : ∀ t ∈ turns, s.Due t.now
  ran : (Crew.start (w.withStore s) (max 1 workers.toNat)).run duty turns = some c

namespace Interleaves

variable {duty : Duty} {w : Workspace} {s : Store} {workers : Int} {turns : List Turn} {c : Crew}

theorem course (run : Interleaves duty w s workers turns c) (keyed : s.Keyed) :
    ∃ after added, Course duty w s (max 1 workers.toNat) turns c after added :=
  (Course.start duty w keyed _).run keyed run.due run.ran

theorem length_le (run : Interleaves duty w s workers turns c) (keyed : s.Keyed) :
    turns.length ≤ 3 * s.queuedJobs.length + max 1 workers.toNat := by
  obtain ⟨after, added, course⟩ := run.course keyed
  have spent := course.spent
  omega

theorem drains (run : Interleaves duty w s workers turns c) (keyed : s.Keyed)
    (finished : c.Finished) : Drains duty w s turns c := by
  obtain ⟨after, added, course⟩ := run.course keyed
  exact course.drains keyed (by omega) finished

end Interleaves

theorem Workspace.drain_withStore (w : Workspace) (s : Store) (stage worker : Bytes)
    (settings : ScanSettings) (now : Instant) (workers : Int) :
    (w.withStore s).drain stage worker settings now workers
      = workInTurn stage worker settings now (max 1 workers.toNat) (w.withStore s) := rfl

theorem exists_interleaves_drain (duty : Duty) (w : Workspace) {s : Store} (keyed : s.Keyed)
    {now : Instant} (due : s.Due now) (workers : Int) :
    ∃ turns c, Interleaves duty w s workers turns c ∧ c.Finished ∧ (∀ t ∈ turns, t.now = now) ∧
      (w.withStore s).drain scanStage duty.worker duty.settings now workers
        = (c.drained, c.workspace) := by
  obtain ⟨turns, c, times, ran, finished, workspace, drained⟩ :=
    (Course.start duty w keyed (max 1 workers.toNat)).run_workInTurn keyed due
      (List.nil_append _).symm (fun _ member => by cases member) rfl
  refine ⟨turns, c, ⟨fun t member => ?_, ran⟩, finished, times, ?_⟩
  · rwa [times t member]
  · rw [Workspace.drain_withStore, workspace, drained]
    exact Prod.ext (Drained.empty_append _).symm rfl

/-- However workers interleave, their turns have an end and each job is worked off once. All that have
come to the end leave the same jobs and scans, ids and times aside, and a drain is one of them. -/
theorem drain_exactly_once (duty : Duty) (w : Workspace) {s : Store} (keyed : s.Keyed)
    (workers : Int) :
    (∀ turns c, Interleaves duty w s workers turns c →
      turns.length ≤ 3 * s.queuedJobs.length + max 1 workers.toNat ∧
      (¬ c.Finished → ∀ now, ∃ i next, c.step duty ⟨i, now⟩ = some next) ∧
      (c.Finished → Drains duty w s turns c)) ∧
    (∀ others turns c turns' c', Interleaves duty w s workers turns c → c.Finished →
      Interleaves duty w s others turns' c' → c'.Finished →
        c.store.works.rows.map Work.untimed = c'.store.works.rows.map Work.untimed ∧
        (c.store.contents.map ScanContent.untimed).Perm
          (c'.store.contents.map ScanContent.untimed) ∧
        ∀ now, (∀ t ∈ turns ++ turns', t.now = now) →
          c.store.contents.Perm c'.store.contents) ∧
    (∀ now, s.Due now → ∃ turns c, Interleaves duty w s workers turns c ∧ c.Finished ∧
      (∀ t ∈ turns, t.now = now) ∧
      (w.withStore s).drain scanStage duty.worker duty.settings now workers
        = (c.drained, c.workspace)) ∧
    (workers < 1 → ∀ now, (w.withStore s).drain scanStage duty.worker duty.settings now workers
      = (w.withStore s).drain scanStage duty.worker duty.settings now 1) := by
  refine ⟨?_, ?_, ?_, ?_⟩
  · intro turns c run
    refine ⟨run.length_le keyed, ?_, run.drains keyed⟩
    intro unfinished now
    exact (c.finished_or_step now).resolve_left unfinished
  · intro others turns c turns' c' run finished run' finished'
    have first := run.drains keyed finished
    have second := run'.drains keyed finished'
    refine ⟨Work.Settles.map_untimed first.jobs second.jobs, first.untimed_contents second, ?_⟩
    exact fun now times => first.contents_perm second times
  · exact fun now due => exists_interleaves_drain duty w keyed due workers
  · intro few now
    have one : max 1 workers.toNat = max 1 (1 : Int).toNat := by omega
    rw [Workspace.drain_withStore, one, Workspace.drain_withStore]

theorem drain_exactly_once_alternating :
    let duty : Duty := ⟨utf8 "worker", { profile := .ascii }⟩
    let files : MemoryFiles := { nodes := [(utf8 "/data/1", { content := utf8 "A" })] }
    let w : Workspace := ⟨{}, { medium := .memory files }, utf8 "/data"⟩
    let s : Store :=
      { units := ⟨[⟨1, none, utf8 "a.asn", [], 1, utf8 "1", []⟩,
          ⟨2, none, utf8 "b.asn", [], 1, utf8 "2", []⟩], 2⟩
        works := ⟨[.fresh 1 scanStage .zero 1, .fresh 2 scanStage .zero 2], 2⟩ }
    let turns : List Turn := [1, 0, 0, 1, 1, 0, 0, 1].map (⟨·, .zero⟩)
    ∃ c, Interleaves duty w s 2 turns c ∧ c.Finished ∧ Drains duty w s turns c ∧
      c.claims = [(1, 1), (0, 2)] ∧ c.store.works.rows.map Work.status = [.ok, .failed] := by
  intro duty files w s turns
  have keyed : s.Keyed :=
    ⟨⟨by decide, by decide⟩, ⟨by decide, by decide⟩, by decide, by decide⟩
  have computed : ((Crew.start (w.withStore s) (max 1 (2 : Int).toNat)).run duty turns).any
      fun c => decide c.Finished && c.claims == [(1, 1), (0, 2)] &&
        c.store.works.rows.map Work.status == [.ok, .failed] := by decide +kernel
  obtain ⟨c, ran, facts⟩ := (Option.any_eq_true ..).1 computed
  simp only [Bool.and_eq_true, decide_eq_true_eq, beq_iff_eq] at facts
  obtain ⟨⟨finished, claims⟩, statuses⟩ := facts
  have run : Interleaves duty w s 2 turns c := ⟨by decide +kernel, ran⟩
  have drains := ((drain_exactly_once duty w keyed 2).1 turns c run).2.2 finished
  exact ⟨c, run, finished, drains, claims, statuses⟩

end AsnLexis
