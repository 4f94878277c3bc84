import AsnLexis.Proofs.Ledger
import Mathlib

/-! What can have happened to a store since it was empty. Batches are opened, files are taken in,
failed jobs are queued again and workers take their turns, in any order. Between two of these the
files can be changed by others, and calls on the store can begin or cease to fail. -/

namespace AsnLexis

/-- A store, the workers on it, and the attempts that were made so far. -/
structure Pipeline where
  store : Store := {}
  phases : List Phase := []
  log : List Attempt := []

namespace Pipeline

/-- What happens next. Each step finds files of its own, and a store that fails calls of its own. -/
inductive Step (p : Pipeline) : Pipeline → Prop
  | batch {w : Workspace} (own : w.link.store = p.store) (label createdBy : Bytes)
      (now : Instant) :
      Step p { p with store := (w.onStore (·.insertBatch label createdBy now)).2.link.store }
  | file {w : Workspace} (own : w.link.store = p.store) (steady : w.link.Steady) (now : Instant)
      (batch : RowId) (upload : Upload) :
      Step p { p with store := (w.ingestFile now batch upload).2.link.store }
  | reset {w : Workspace} (own : w.link.store = p.store) (now : Instant) :
      Step p { p with store := (w.onStore (·.resetFailed scanStage now)).2.link.store }
  /-- Workers are replaced. The jobs that they hold stay as they are. -/
  | crew (workers : Nat) : Step p { p with phases := List.replicate workers .idle }
  | turn {c next : Crew} {duty : Duty} {t : Turn} (own : c.store = p.store)
      (phases : c.phases = p.phases) (steady : c.workspace.link.Steady)
      (stepped : c.step duty t = some next) :
      Step p ⟨next.store, next.phases, p.log ++ c.attempts duty t⟩

def Reached (p : Pipeline) : Prop := Relation.ReflTransGen Step {} p

variable {p q : Pipeline}

theorem Step.ledger (step : Step p q) (ledger : Ledger p.log p.phases p.store) :
    Ledger q.log q.phases q.store := by
  cases step with
  | @batch w own label createdBy now =>
      rw [← own] at ledger
      rcases w.openBatch_cases label createdBy now with ⟨e, refused⟩ | opened
      · rw [refused]
        exact ledger
      · rw [opened]
        exact ledger.insertBatch label createdBy now
  | @file w own steady now batch upload =>
      rw [← own] at ledger
      have ingests := Workspace.ingests_ingestFile w now batch upload
      generalize (w.ingestFile now batch upload).1 = result,
        (w.ingestFile now batch upload).2 = after at ingests ⊢
      cases ingests with
      | refused => exact ledger
      | duplicate => exact ledger
      | stranded _ _ _ failing =>
          rw [steady.insertWork] at failing
          cases failing
      | taken new => exact ledger.enlist new now
  | @reset w own now =>
      rw [← own] at ledger
      simp only [Workspace.onStore, Connection.resetFailed, Connection.change, Connection.ask]
      cases w.link.barrier? with
      | some reason => exact ledger
      | none => exact ledger.resetFailed now
  | crew workers => exact ledger.crew workers
  | turn own phases steady stepped =>
      rw [← own, ← phases] at ledger
      exact (ledger.turn steady stepped).2

theorem Reached.ledger (reached : p.Reached) : Ledger p.log p.phases p.store := by
  induction reached with
  | refl => exact .empty
  | tail _ step ih => exact step.ledger ih

inductive Call where
  | ingestFile (now : Instant) (batch : RowId) (upload : Upload)
  | ingestBatch (now : Instant) (label createdBy : Bytes) (uploads : List Upload)
  | ingestPaths (now : Instant) (label createdBy : Bytes) (paths : List Bytes)
  | processJob (duty : Duty) (now : Instant)
  | drain (duty : Duty) (now : Instant) (workers : Int)
  | resetFailed (now : Instant)

def Call.run (w : Workspace) : Call → Workspace
  | ingestFile now batch upload => (w.ingestFile now batch upload).2
  | ingestBatch now label createdBy uploads => (w.ingestBatch now label createdBy uploads).2
  | ingestPaths now label createdBy paths => (w.ingestPaths now label createdBy paths).2
  | processJob duty now => (w.processJob scanStage duty.worker duty.settings now).2
  | drain duty now workers => (w.drain scanStage duty.worker duty.settings now workers).2
  | resetFailed now => (w.onStore (·.resetFailed scanStage now)).2

structure Visit where
  found : Workspace
  call : Call

def Visit.run (s : Store) (v : Visit) : Store := (v.call.run (v.found.backedBy s)).link.store

def serve (visits : List Visit) : Store := visits.foldl Visit.run {}

def Arises (s : Store) : Prop := ∃ p, Reached p ∧ p.store = s

variable {w : Workspace}

theorem Arises.ingestFile (arises : Arises w.link.store) (steady : w.link.Steady) (now : Instant)
    (batch : RowId) (upload : Upload) : Arises (w.ingestFile now batch upload).2.link.store := by
  obtain ⟨p, reached, own⟩ := arises
  exact ⟨_, reached.tail (.file own.symm steady now batch upload), rfl⟩

theorem steady_ingestFile (steady : w.link.Steady) (now : Instant) (batch : RowId)
    (upload : Upload) : (w.ingestFile now batch upload).2.link.Steady := by
  have ingests := Workspace.ingests_ingestFile w now batch upload
  generalize (w.ingestFile now batch upload).1 = result,
    (w.ingestFile now batch upload).2 = after at ingests ⊢
  have copied {kept : Workspace} {path content : Bytes}
      (copied : w.keepCopy path content = (.ok (), kept)) : kept.link = w.link := by
    obtain ⟨files, same⟩ := w.keepCopy_files path content
    rw [copied] at same
    obtain rfl : kept = { w with files } := same
    rfl
  cases ingests with
  | refused => exact steady
  | duplicate => exact steady
  | stranded _ _ _ failing =>
      rw [steady.insertWork] at failing
      cases failing
  | taken _ _ same =>
      have link := copied same
      exact (link ▸ steady : Connection.Steady _).withStore _

theorem Arises.ingestAll (arises : Arises w.link.store) (steady : w.link.Steady) (now : Instant)
    (batch : RowId) (uploads : List Upload) :
    Arises (w.ingestAll now batch uploads).2.link.store := by
  induction uploads generalizing w with
  | nil => exact arises
  | cons upload rest ih =>
      have first := arises.ingestFile steady now batch upload
      have later := steady_ingestFile steady now batch upload
      rw [Workspace.ingestAll]
      generalize w.ingestFile now batch upload = taken at first later ⊢
      rcases taken with ⟨result, after⟩
      cases result with
      | error e => exact first
      | ok result => exact ih first later

theorem Arises.ingestBatch (arises : Arises w.link.store) (steady : w.link.Steady) (now : Instant)
    (label createdBy : Bytes) (uploads : List Upload) :
    Arises (w.ingestBatch now label createdBy uploads).2.link.store := by
  have opened : Arises (w.onStore (·.insertBatch label createdBy now)).2.link.store := by
    obtain ⟨p, reached, own⟩ := arises
    exact ⟨_, reached.tail (.batch own.symm label createdBy now), rfl⟩
  have later : (w.onStore (·.insertBatch label createdBy now)).2.link.Steady := by
    rcases w.openBatch_cases label createdBy now with ⟨e, refused⟩ | opened
    · rw [refused]
      exact steady
    · rw [opened]
      exact steady.withStore _
  rw [Workspace.ingestBatch]
  generalize w.onStore (·.insertBatch label createdBy now) = inserted at opened later ⊢
  rcases inserted with ⟨result, after⟩
  cases result with
  | error e => exact opened
  | ok batch => exact opened.ingestAll later now batch uploads

theorem Arises.ingestPaths (arises : Arises w.link.store) (steady : w.link.Steady) (now : Instant)
    (label createdBy : Bytes) (paths : List Bytes) :
    Arises (w.ingestPaths now label createdBy paths).2.link.store := by
  rw [Workspace.ingestPaths]
  cases w.readAll paths with
  | error e => exact arises
  | ok uploads => exact arises.ingestBatch steady now label createdBy uploads

theorem Arises.resetFailed (arises : Arises w.link.store) (now : Instant) :
    Arises (w.onStore (·.resetFailed scanStage now)).2.link.store := by
  obtain ⟨p, reached, own⟩ := arises
  exact ⟨_, reached.tail (.reset own.symm now), rfl⟩

/-- Turns of a crew are steps of the pipeline, and the attempts in them are made under the duty of the
crew and on its files. -/
theorem Reached.run {c last : Crew} {duty : Duty} {turns : List Turn} (reached : p.Reached)
    (own : c.store = p.store) (phases : c.phases = p.phases) (steady : c.workspace.link.Steady)
    (ran : c.run duty turns = some last) :
    ∃ made, Reached ⟨last.store, last.phases, p.log ++ made⟩ ∧ ∀ a ∈ made,
      a.settings = duty.settings ∧ a.workspace = c.workspace.backedBy a.workspace.link.store := by
  induction turns generalizing p c with
  | nil =>
      cases ran
      refine ⟨[], ?_, fun a member => by cases member⟩
      rw [own, phases, List.append_nil]
      exact reached
  | cons t turns ih =>
      obtain ⟨next, stepped, rest⟩ := Option.bind_eq_some_iff.1 ran
      have ledger := reached.ledger
      rw [← own, ← phases] at ledger
      -- The turn changes the store at most, so the next one finds the same files and the same outages.
      have same := (ledger.turn steady stepped).1
      have later : next.workspace.link.Steady := same ▸ steady.withStore next.store
      obtain ⟨made, reached, alike⟩ :=
        ih (reached.tail (.turn own phases steady stepped)) rfl rfl later rest
      refine ⟨c.attempts duty t ++ made, List.append_assoc .. ▸ reached, fun a member => ?_⟩
      rcases List.mem_append.1 member with first | others
      · rw [Crew.attempts] at first
        split at first
        next =>
          rw [List.mem_singleton.1 first]
          exact ⟨rfl, rfl⟩
        next => cases first
      · obtain ⟨settings, workspace⟩ := alike a others
        refine ⟨settings, workspace.trans ?_⟩
        rw [same]
        rfl

theorem Arises.run {duty : Duty} {workers : Nat} {turns : List Turn} {last : Crew}
    (arises : Arises w.link.store) (steady : w.link.Steady)
    (ran : (Crew.start w workers).run duty turns = some last) : Arises last.store := by
  obtain ⟨p, reached, own⟩ := arises
  obtain ⟨made, reached, -⟩ := Reached.run (c := .start w workers) (reached.tail (.crew workers))
    own.symm rfl steady ran
  exact ⟨_, reached, rfl⟩

theorem Arises.processJob (arises : Arises w.link.store) (steady : w.link.Steady) (duty : Duty)
    (now : Instant) :
    Arises (w.processJob scanStage duty.worker duty.settings now).2.link.store := by
  rcases worked : w.processJob scanStage duty.worker duty.settings now with ⟨round, after⟩
  cases got : round.processed with
  | false => exact arises.run steady (Crew.run_idle (c := .start w 1) (i := 0) rfl worked got)
  | true =>
      obtain ⟨claims, ran⟩ := Crew.run_job (c := .start w 1) (i := 0) rfl worked got
      exact arises.run steady ran

theorem Arises.drain (arises : Arises w.link.store) (steady : w.link.Steady) (duty : Duty)
    (now : Instant) (workers : Int) :
    Arises (w.drain scanStage duty.worker duty.settings now workers).2.link.store := by
  rw [Workspace.drain]
  split_ifs
  · exact arises
  · have place : (Crew.start w (max 1 workers.toNat)).phases
        = [] ++ List.replicate (max 1 workers.toNat) .idle := rfl
    obtain ⟨turns, last, ran, ended⟩ := Crew.run_workInTurn duty now place
    rw [show w = (Crew.start w (max 1 workers.toNat)).workspace from rfl, ← ended]
    exact arises.run steady ran

theorem Arises.call (arises : Arises w.link.store) (steady : w.link.Steady) (call : Call) :
    Arises (call.run w).link.store := by
  cases call with
  | ingestFile now batch upload => exact arises.ingestFile steady now batch upload
  | ingestBatch now label createdBy uploads =>
      exact arises.ingestBatch steady now label createdBy uploads
  | ingestPaths now label createdBy paths =>
      exact arises.ingestPaths steady now label createdBy paths
  | processJob duty now => exact arises.processJob steady duty now
  | drain duty now workers => exact arises.drain steady duty now workers
  | resetFailed now => exact arises.resetFailed now

theorem arises_serve {visits : List Visit} (steady : ∀ v ∈ visits, v.found.link.Steady) :
    Arises (serve visits) := by
  -- From any store that can come about, as the calls begin with an empty one only at the start.
  suffices later : ∀ s, Arises s → Arises (visits.foldl Visit.run s) from
    later {} ⟨{}, .refl, rfl⟩
  induction visits with
  | nil => exact fun s arises => arises
  | cons v visits ih =>
      intro s arises
      have first := (steady v List.mem_cons_self).withStore s
      refine ih (fun later member => steady later (List.mem_cons_of_mem v member)) _ ?_
      exact Arises.call (w := v.found.backedBy s) arises first v.call

end Pipeline

end AsnLexis
