import AsnLexis.Pipeline.Job

/-! Draining a queue: workers process jobs until none is left. -/

namespace AsnLexis

/-- What a drain did. The errors are those of the failed jobs, in the order they ended; refusals are
the errors that kept workers from claiming. -/
structure Drained where
  processed : Nat := 0
  failed : Nat := 0
  errors : List Error := []
  refusals : List Error := []
  log : List LogRecord := []

namespace Drained

def append (a b : Drained) : Drained :=
  ⟨a.processed + b.processed, a.failed + b.failed, a.errors ++ b.errors, a.refusals ++ b.refusals,
    a.log ++ b.log⟩

def ofJob (failure : Option Error) (log : List LogRecord) : Drained :=
  match failure with
  | none => { processed := 1, log }
  | some e => { processed := 1, failed := 1, errors := [e], log }

end Drained

namespace Workspace

def queued (w : Workspace) (stage : Bytes) : Nat :=
  (w.link.store.works.rows.filter fun j => j.stage == stage && j.status == .queued).length

def workRounds (stage worker : Bytes) (settings : ScanSettings) (now : Instant) :
    Nat → Workspace → Drained × Workspace
  | 0, w => ({}, w)
  | rounds + 1, w =>
    let (round, w) := w.processJob stage worker settings now
    if round.processed then
      let (more, w) := workRounds stage worker settings now rounds w
      ((Drained.ofJob round.failure round.log).append more, w)
    else ({ refusals := round.failure.toList, log := round.log }, w)

/-- One worker works until it gets no job. Each job it gets was queued, so it makes at most one
round more than there are queued jobs. -/
def workUntilIdle (w : Workspace) (stage worker : Bytes) (settings : ScanSettings) (now : Instant) :
    Drained × Workspace :=
  workRounds stage worker settings now (w.queued stage + 1) w

def workInTurn (stage worker : Bytes) (settings : ScanSettings) (now : Instant) :
    Nat → Workspace → Drained × Workspace
  | 0, w => ({}, w)
  | workers + 1, w =>
    let (first, w) := w.workUntilIdle stage worker settings now
    let (others, w) := workInTurn stage worker settings now workers w
    (first.append others, w)

/-- Drains a stage with some workers, one at least. Nothing is done when the caller has given up. -/
def drain (w : Workspace) (stage worker : Bytes) (settings : ScanSettings) (now : Instant)
    (workers : Int) : Drained × Workspace :=
  if w.link.cancelled then ({}, w)
  else workInTurn stage worker settings now (max 1 workers.toNat) w

/-- The error that a drain as a whole ends with: those that kept workers from claiming, or that the
caller has given up. -/
def drainFailure (w : Workspace) (d : Drained) : Option Error :=
  match d.refusals with
  | [] => if w.link.cancelled then some Connection.givenUp else none
  | refusals => some (.join refusals)

end Workspace

end AsnLexis
