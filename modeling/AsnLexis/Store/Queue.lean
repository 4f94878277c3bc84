import AsnLexis.Store.Basic
import AsnLexis.Text.Order

/-! The job queue. A job is queued, then claimed and running, then finished as ok or failed; a
failed one can be queued again. -/

namespace AsnLexis.Store

structure NewWork where
  unit : RowId
  stage : Bytes
  status : Bytes
  attempt : Int
  availableAt : Instant
  deriving DecidableEq, Repr

def insertWork (s : Store) (w : NewWork) : Except Constraint (RowId × Store) :=
  match Status.ofText? w.status with
  | none => .error .status
  | some status =>
    if (s.unit? w.unit).isNone then .error .reference
    else
      let row (id : RowId) : Work :=
        { id, unit := w.unit, stage := w.stage, status, attempt := w.attempt,
          availableAt := w.availableAt.text }
      .ok (s.works.next, { s with works := s.works.push row })

def isClaimable (stage : Bytes) (now : Stamp) (w : Work) : Bool :=
  w.stage == stage && w.status == .queued && Bytes.le w.availableAt now

/-- The job that was available first; of two that were so at one time, the one that comes first. -/
def earliest : List Work → Option Work
  | [] => none
  | w :: rest =>
    match earliest rest with
    | none => some w
    | some other => if Bytes.le w.availableAt other.availableAt then some w else some other

def nextWork? (s : Store) (stage : Bytes) (now : Stamp) : Option Work :=
  earliest (s.works.rows.filter (isClaimable stage now))

/-- A claimed job: it runs, locked by its worker, and counts one attempt more. -/
def claimed (worker : Bytes) (now : Stamp) (w : Work) : Work :=
  { w with
    status := .running
    attempt := w.attempt + 1
    lockedBy := some worker
    lockedAt := some now
    startedAt := some (w.startedAt.getD now) }

def updateWork (s : Store) (id : RowId) (f : Work → Work) : Store :=
  { s with works := s.works.map fun w => if w.id == id then f w else w }

def claimWork (s : Store) (stage worker : Bytes) (now : Instant) : Option Work × Store :=
  match s.nextWork? stage now.text with
  | none => (none, s)
  | some w => (some (claimed worker now.text w), s.updateWork w.id (claimed worker now.text))

inductive Ending where
  | ok
  | failed
  deriving DecidableEq, Repr

namespace Ending

def status : Ending → Status
  | ok => .ok
  | failed => .failed

def ofText? (text : Bytes) : Option Ending :=
  if text == utf8 Status.ok.name then some ok
  else if text == utf8 Status.failed.name then some failed
  else none

end Ending

def finished (ending : Ending) (code message : Bytes) (now : Stamp) (w : Work) : Work :=
  { w with
    status := ending.status
    finishedAt := some now
    errorCode := present code
    errorMessage := present message
    lockedBy := none
    lockedAt := none }

def finishWork? (s : Store) (id : RowId) (ending : Ending) (code message : Bytes) (now : Instant) :
    Option Store :=
  if s.works.rows.any (fun w => w.id == id && w.status == .running) then
    some (s.updateWork id (finished ending code message now.text))
  else none

def isFailed (stage : Bytes) (w : Work) : Bool := w.stage == stage && w.status == .failed

/-- A failed job that is queued again; its attempts still count. -/
def requeued (now : Stamp) (w : Work) : Work :=
  { w with
    status := .queued
    availableAt := now
    lockedBy := none
    lockedAt := none
    finishedAt := none
    errorCode := none
    errorMessage := none }

def failedWork (s : Store) (stage : Bytes) : List Work := s.works.rows.filter (isFailed stage)

def resetFailed (s : Store) (stage : Bytes) (now : Instant) : Nat × Store :=
  ((s.failedWork stage).length,
    { s with works := s.works.map fun w => if isFailed stage w then requeued now.text w else w })

def worksOfBatch (s : Store) (batch : RowId) : List Work :=
  s.works.rows.filter fun w => (s.unit? w.unit).any (·.batch == some batch)

def summary (s : Store) (batch : RowId) : List (Bytes × List (Status × Nat)) :=
  let works := s.worksOfBatch batch
  (works.map Work.stage).eraseDups.map fun stage =>
    let here := works.filter (·.stage == stage)
    (stage, (Status.all.map fun st => (st, (here.filter (·.status == st)).length)).filter (0 < ·.2))

end AsnLexis.Store
