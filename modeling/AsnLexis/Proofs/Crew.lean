import AsnLexis.Pipeline.Drain
import Mathlib

/-! Workers side by side. Each goes through the steps of job after job, claiming, performing and
concluding, until it gets no job; the steps of different workers come in any order. -/

namespace AsnLexis

/-- What the workers of a crew have in common: the name they lock jobs under, and how they scan. -/
structure Duty where
  worker : Bytes
  settings : ScanSettings

inductive Phase where
  | idle
  | claimed (job : Work)
  | performed (job : Work) (outcome : Workspace.JobOutcome)
  | done

namespace Phase

def held? : Phase → Option RowId
  | claimed job => some job.id
  | performed job _ => some job.id
  | _ => none

/-- The steps that a worker has before it, those for jobs it does not hold aside. -/
def ahead : Phase → Nat
  | idle => 1
  | claimed _ => 3
  | performed _ _ => 2
  | done => 0

theorem ahead_eq_zero_iff {phase : Phase} : phase.ahead = 0 ↔ phase = .done := by
  cases phase <;> simp [ahead]

end Phase

structure Turn where
  worker : Nat
  now : Instant

/-- Workers on one workspace: where each of them stands, the jobs that were claimed and by whom, and
what was done so far. -/
structure Crew where
  workspace : Workspace
  phases : List Phase
  claims : List (Nat × RowId) := []
  drained : Drained := {}

namespace Crew

def start (w : Workspace) (workers : Nat) : Crew :=
  { workspace := w, phases := List.replicate workers .idle }

def move (c : Crew) (worker : Nat) (w : Workspace) (phase : Phase) (part : Drained) : Crew :=
  { c with workspace := w, phases := c.phases.set worker phase, drained := c.drained.append part }

def step (duty : Duty) (c : Crew) (t : Turn) : Option Crew :=
  match c.phases[t.worker]? with
  | none => none
  | some .idle =>
    match c.workspace.claim scanStage duty.worker t.now with
    | (.error e, w) => some (c.move t.worker w .done { refusals := [.wrap (utf8 "claim job") e] })
    | (.ok none, w) => some (c.move t.worker w .done {})
    | (.ok (some job), w) =>
      some { c.move t.worker w (.claimed job) {} with claims := c.claims ++ [(t.worker, job.id)] }
  | some (.claimed job) =>
    let (outcome, w) := c.workspace.perform scanStage duty.settings t.now job
    some (c.move t.worker w (.performed job outcome) {})
  | some (.performed job outcome) =>
    let (failure, w) := c.workspace.conclude t.now job outcome.failure
    some (c.move t.worker w .idle (.ofJob failure outcome.log))
  | some .done => none

def run (duty : Duty) (c : Crew) : List Turn → Option Crew
  | [] => some c
  | t :: turns => (c.step duty t).bind (·.run duty turns)

def Finished (c : Crew) : Prop := ∀ phase ∈ c.phases, phase = .done

instance (c : Crew) : Decidable c.Finished :=
  decidable_of_iff (∀ phase ∈ c.phases, phase.ahead = 0)
    (forall₂_congr fun _ _ => Phase.ahead_eq_zero_iff)

variable {duty : Duty} {c : Crew}

theorem run_append (first second : List Turn) :
    c.run duty (first ++ second) = (c.run duty first).bind (·.run duty second) := by
  induction first generalizing c with
  | nil => rfl
  | cons t first ih =>
      rw [List.cons_append, run, run, Option.bind_assoc]
      exact congrArg _ (funext fun after => ih)

theorem exists_step {i : Nat} {phase : Phase} (found : c.phases[i]? = some phase)
    (unfinished : phase ≠ .done) (now : Instant) : ∃ after, c.step duty ⟨i, now⟩ = some after := by
  rw [step, found]
  cases phase with
  | idle =>
      simp only
      split
      · exact ⟨_, rfl⟩
      · exact ⟨_, rfl⟩
      · exact ⟨_, rfl⟩
  | claimed job => exact ⟨_, rfl⟩
  | performed job outcome => exact ⟨_, rfl⟩
  | done => exact absurd rfl unfinished

theorem finished_or_step (c : Crew) (now : Instant) :
    c.Finished ∨ ∃ i after, c.step duty ⟨i, now⟩ = some after := by
  by_cases finished : c.Finished
  · exact .inl finished
  · right
    obtain ⟨phase, member, unfinished⟩ : ∃ phase ∈ c.phases, phase ≠ .done := by
      simpa [Finished] using finished
    obtain ⟨i, found⟩ := List.mem_iff_getElem?.1 member
    exact ⟨i, exists_step found unfinished now⟩

end Crew

namespace Drained

theorem append_empty (d : Drained) : d.append {} = d := by simp [append]

theorem empty_append (d : Drained) : append {} d = d := by simp [append]

theorem append_assoc (a b c : Drained) : (a.append b).append c = a.append (b.append c) := by
  simp [append, Nat.add_assoc]

variable {failure : Option Error} {log : List LogRecord}

theorem processed_ofJob : (ofJob failure log).processed = 1 := by cases failure <;> rfl

theorem failed_ofJob : (ofJob failure log).failed = if failure.isSome then 1 else 0 := by
  cases failure <;> rfl

theorem length_errors_ofJob :
    (ofJob failure log).errors.length = if failure.isSome then 1 else 0 := by
  cases failure <;> rfl

theorem refusals_ofJob : (ofJob failure log).refusals = [] := by cases failure <;> rfl

end Drained

namespace Crew

variable {duty : Duty} {c : Crew} {i : Nat} {now : Instant} {round : Workspace.Round}
  {after : Workspace}

theorem run_idle (found : c.phases[i]? = some .idle)
    (worked : c.workspace.processJob scanStage duty.worker duty.settings now = (round, after))
    (none : round.processed = false) :
    c.run duty [⟨i, now⟩] = some (c.move i after .done
      { refusals := round.failure.toList, log := round.log }) := by
  rw [Workspace.processJob] at worked
  simp only [run, step, found]
  generalize c.workspace.claim scanStage duty.worker now = claim at worked ⊢
  obtain ⟨answer, w⟩ := claim
  match answer with
  | .error e =>
      cases worked
      rfl
  | .ok .none =>
      cases worked
      rfl
  | .ok (some job) =>
      cases worked
      cases none

theorem run_job (found : c.phases[i]? = some .idle)
    (worked : c.workspace.processJob scanStage duty.worker duty.settings now = (round, after))
    (got : round.processed = true) :
    ∃ claims, c.run duty (List.replicate 3 ⟨i, now⟩) = some
      ⟨after, c.phases, claims, c.drained.append (.ofJob round.failure round.log)⟩ := by
  have inside : i < c.phases.length := (List.getElem?_eq_some_iff.1 found).1
  have same : c.phases.set i .idle = c.phases := by
    rw [← (List.getElem?_eq_some_iff.1 found).2]
    exact List.set_getElem_self inside
  rw [Workspace.processJob] at worked
  simp only [List.replicate, run, step, found]
  generalize c.workspace.claim scanStage duty.worker now = claim at worked ⊢
  obtain ⟨answer, w⟩ := claim
  match answer with
  | .error e =>
      cases worked
      cases got
  | .ok none =>
      cases worked
      cases got
  | .ok (some job) =>
      simp only [Prod.mk.injEq] at worked
      obtain ⟨rfl, rfl⟩ := worked
      refine ⟨c.claims ++ [(i, job.id)], ?_⟩
      simp [move, inside, same, Drained.append_empty]

/-- Rounds of a worker are turns of it. The worker is done by them, or it got a job in each. -/
theorem run_rounds {rounds : Nat} {part : Drained} (found : c.phases[i]? = some .idle)
    (worked : Workspace.workRounds scanStage duty.worker duty.settings now rounds c.workspace
      = (part, after)) :
    ∃ n last, c.run duty (List.replicate n ⟨i, now⟩) = some last ∧
      last.workspace = after ∧ last.drained = c.drained.append part ∧
      (last.phases = c.phases.set i .done ∨ last.phases = c.phases ∧ n = 3 * rounds) := by
  induction rounds generalizing c part after with
  | zero =>
      cases worked
      exact ⟨0, c, rfl, rfl, c.drained.append_empty.symm, .inr ⟨rfl, rfl⟩⟩
  | succ rounds ih =>
      rw [Workspace.workRounds] at worked
      cases first : c.workspace.processJob scanStage duty.worker duty.settings now with
      | mk round w =>
          rw [first] at worked
          cases processed : round.processed with
          | false =>
              simp only [processed, Bool.false_eq_true, if_false] at worked
              cases worked
              exact ⟨1, _, run_idle found first processed, rfl, rfl, .inl rfl⟩
          | true =>
              simp only [processed, if_true] at worked
              obtain ⟨claims, job⟩ := run_job found first processed
              let middle : Crew :=
                ⟨w, c.phases, claims, c.drained.append (.ofJob round.failure round.log)⟩
              obtain ⟨n, last, later, workspace, drained, phases⟩ := ih (c := middle) found rfl
              cases worked
              refine ⟨3 + n, last, ?_, workspace, drained.trans (Drained.append_assoc ..), ?_⟩
              · rw [← List.replicate_append_replicate, run_append, job]
                exact later
              · exact phases.imp_right fun ⟨same, length⟩ => ⟨same, by omega⟩

theorem run_workInTurn (duty : Duty) (now : Instant) {front : List Phase} {idle : Nat}
    (place : c.phases = front ++ List.replicate idle .idle) :
    ∃ turns last, c.run duty turns = some last ∧ last.workspace
      = (Workspace.workInTurn scanStage duty.worker duty.settings now idle c.workspace).2 := by
  induction idle generalizing c front with
  | zero => exact ⟨[], c, rfl, rfl⟩
  | succ idle ih =>
      have found : c.phases[front.length]? = some .idle := by simp [place, List.replicate_succ]
      rcases first : c.workspace.workUntilIdle scanStage duty.worker duty.settings now with
        ⟨part, after⟩
      obtain ⟨n, middle, ran, rfl, -, phases⟩ := run_rounds found first
      obtain ⟨phase, place'⟩ : ∃ phase,
          middle.phases = (front ++ [phase]) ++ List.replicate idle .idle := by
        rcases phases with done | ⟨same, -⟩
        · exact ⟨.done, by simp [done, place, List.replicate_succ]⟩
        · exact ⟨.idle, by simp [same, place, List.replicate_succ]⟩
      obtain ⟨turns, last, later, ended⟩ := ih place'
      refine ⟨List.replicate n ⟨front.length, now⟩ ++ turns, last, ?_, ?_⟩
      · rw [run_append, ran]
        exact later
      · rw [ended, Workspace.workInTurn, first]

end Crew

end AsnLexis
