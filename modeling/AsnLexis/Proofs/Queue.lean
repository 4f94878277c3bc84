import AsnLexis.Pipeline.Connection
import AsnLexis.Proofs.Store
import Mathlib

/-! The job queue under any sequence of calls, by any workers and at any times. A job turns from
queued to running to ok or failed, and from failed to queued again; its other columns follow its
status, and its attempts count how often it was claimed. -/

namespace AsnLexis

namespace Store

theorem earliest_eq_none_iff {works : List Work} : earliest works = none ↔ works = [] := by
  cases works with
  | nil => simp [earliest]
  | cons w rest =>
      rw [earliest]
      cases earliest rest with
      | none => simp
      | some other =>
          dsimp only
          split_ifs <;> simp

theorem mem_of_earliest {works : List Work} {w : Work} (found : earliest works = some w) :
    w ∈ works := by
  induction works generalizing w with
  | nil => cases found
  | cons first rest ih =>
      rw [earliest] at found
      cases later : earliest rest with
      | none =>
          rw [later] at found
          cases found
          exact List.mem_cons_self
      | some other =>
          rw [later] at found
          dsimp only at found
          split_ifs at found
          · cases found
            exact List.mem_cons_self
          · cases found
            exact List.mem_cons_of_mem first (ih later)

theorem mem_of_nextWork? {s : Store} {stage : Bytes} {now : Stamp} {w : Work}
    (next : s.nextWork? stage now = some w) : w ∈ s.works.rows ∧ isClaimable stage now w :=
  List.mem_filter.1 (mem_of_earliest next)

theorem nextWork?_eq_none_iff {s : Store} {stage : Bytes} {now : Stamp} :
    s.nextWork? stage now = none ↔ ∀ w ∈ s.works.rows, ¬ isClaimable stage now w := by
  rw [nextWork?, earliest_eq_none_iff, List.filter_eq_nil_iff]

theorem isClaimable_iff {stage : Bytes} {now : Stamp} {w : Work} :
    isClaimable stage now w ↔
      w.stage = stage ∧ w.status = .queued ∧ Bytes.le w.availableAt now := by
  simp [isClaimable, and_assoc]

theorem isFailed_iff {stage : Bytes} {w : Work} :
    isFailed stage w ↔ w.stage = stage ∧ w.status = .failed := by
  simp [isFailed]

theorem mem_updateWork {s : Store} (numbered : s.works.Numbered Work.id) {w : Work}
    (member : w ∈ s.works.rows) {f : Work → Work} {row : Work} :
    row ∈ (s.updateWork w.id f).works.rows ↔
      row = f w ∨ (row ∈ s.works.rows ∧ row.id ≠ w.id) := by
  constructor
  · intro changed
    obtain ⟨before, inside, rfl⟩ := List.mem_map.1 changed
    by_cases same : before.id = w.id
    · rw [numbered.eq_of_id inside member same]
      simp
    · simp [same, inside]
  · rintro (rfl | ⟨inside, other⟩)
    · exact List.mem_map.2 ⟨w, member, by simp⟩
    · exact List.mem_map.2 ⟨row, inside, by simp [other]⟩

theorem Ending.ofText?_eq_some_iff {text : Bytes} {ending : Ending} :
    Ending.ofText? text = some ending ↔ text = utf8 ending.status.name := by
  have apart : utf8 Status.failed.name ≠ utf8 Status.ok.name := by decide
  constructor
  · intro known
    rw [ofText?] at known
    split_ifs at known with ok failed
    · cases known
      exact beq_iff_eq.1 ok
    · cases known
      exact beq_iff_eq.1 failed
  · rintro rfl
    cases ending with
    | ok => simp [ofText?, status]
    | failed => simp [ofText?, status, apart]

end Store

theorem Status.mem_all (status : Status) : status ∈ Status.all := by
  cases status <;> decide

theorem Status.ofText?_name (status : Status) : Status.ofText? (utf8 status.name) = some status := by
  cases status <;> decide

namespace Work

/-- The columns of a job agree with its status, and its attempts with the number of its claims. -/
structure Consistent (w : Work) (claims : Nat) : Prop where
  status : w.status ∈ Status.all
  lockedBy : w.lockedBy.isSome ↔ w.status = .running
  lockedAt : w.lockedAt.isSome ↔ w.status = .running
  finishedAt : w.finishedAt.isSome ↔ w.status = .ok ∨ w.status = .failed
  startedAt : w.startedAt.isSome ↔ 1 ≤ w.attempt
  attempt : w.attempt = claims
  errors : w.status = .queued ∨ w.status = .running → w.errorCode = none ∧ w.errorMessage = none

def fresh (unit : RowId) (stage : Bytes) (availableAt : Instant) (id : RowId) : Work :=
  { id, unit, stage, status := .queued, attempt := 0, availableAt := availableAt.text }

namespace Consistent

variable {w : Work} {claims : Nat}

theorem fresh (unit : RowId) (stage : Bytes) (availableAt : Instant) (id : RowId) :
    (Work.fresh unit stage availableAt id).Consistent 0 := by
  constructor <;> simp [Work.fresh, Status.all]

theorem claimed (consistent : w.Consistent claims) (queued : w.status = .queued) (worker : Bytes)
    (now : Stamp) : (Store.claimed worker now w).Consistent (claims + 1) := by
  have count := consistent.attempt
  have none := consistent.finishedAt
  rw [queued] at none
  constructor
  · exact Status.mem_all _
  · simp [Store.claimed]
  · simp [Store.claimed]
  · simpa [Store.claimed] using none
  · simp only [Store.claimed, Option.isSome_some, true_iff]
    omega
  · simp [Store.claimed, count]
  · intro _
    exact consistent.errors (.inl queued)

theorem finished (consistent : w.Consistent claims) (ending : Store.Ending)
    (code message : Bytes) (now : Stamp) :
    (Store.finished ending code message now w).Consistent claims := by
  constructor
  · exact Status.mem_all _
  · cases ending <;> simp [Store.finished, Store.Ending.status]
  · cases ending <;> simp [Store.finished, Store.Ending.status]
  · cases ending <;> simp [Store.finished, Store.Ending.status]
  · exact consistent.startedAt
  · exact consistent.attempt
  · cases ending <;> simp [Store.finished, Store.Ending.status]

theorem requeued (consistent : w.Consistent claims) (now : Stamp) :
    (Store.requeued now w).Consistent claims := by
  constructor
  · exact Status.mem_all _
  · simp [Store.requeued]
  · simp [Store.requeued]
  · simp [Store.requeued]
  · exact consistent.startedAt
  · exact consistent.attempt
  · intro _
    exact ⟨rfl, rfl⟩

end Consistent

end Work

namespace Queue

inductive Call where
  | insert (unit : RowId) (stage : Bytes) (availableAt : Instant)
  | claim (stage worker : Bytes) (now : Instant)
  | finish (id : RowId) (status code message : Bytes) (now : Instant)
  | reset (stage : Bytes) (now : Instant)

inductive Answer where
  | inserted (outcome : Except Error RowId)
  | claimed (outcome : Except Error (Option Work))
  | finished (outcome : Except Error Unit)
  | reset (outcome : Except Error Nat)

structure Event where
  call : Call
  answer : Answer

def Call.run (c : Connection) : Call → Answer × Connection
  | .insert unit stage availableAt =>
    let (outcome, c) := c.insertWork ⟨unit, stage, utf8 Status.queued.name, 0, availableAt⟩
    (.inserted outcome, c)
  | .claim stage worker now =>
    let (outcome, c) := c.claimWork stage worker now
    (.claimed outcome, c)
  | .finish id status code message now =>
    let (outcome, c) := c.finishWork id status code message now
    (.finished outcome, c)
  | .reset stage now =>
    let (outcome, c) := c.resetFailed stage now
    (.reset outcome, c)

def run (c : Connection) : List Call → List Event × Connection
  | [] => ([], c)
  | call :: rest =>
    let (answer, c) := call.run c
    let (events, c) := run c rest
    (⟨call, answer⟩ :: events, c)

def Event.claims (id : RowId) (e : Event) : Bool :=
  match e.answer with
  | .claimed (.ok (some w)) => w.id == id
  | _ => false

def claims (id : RowId) (events : List Event) : Nat := events.countP (Event.claims id)

/-- What a call can do to the store, and what it is answered with then. -/
inductive Steps (s : Store) : Call → Answer → Store → Prop
  | refused {call : Call} {answer : Answer} (unclaimed : ∀ id, ¬ Event.claims id ⟨call, answer⟩) :
      Steps s call answer s
  | inserted (unit : RowId) (stage : Bytes) (availableAt : Instant) :
      Steps s (.insert unit stage availableAt) (.inserted (.ok s.works.next))
        { s with works := s.works.push (Work.fresh unit stage availableAt) }
  | claimed {stage : Bytes} (worker : Bytes) {now : Instant} {w : Work}
      (member : w ∈ s.works.rows) (claimable : Store.isClaimable stage now.text w) :
      Steps s (.claim stage worker now) (.claimed (.ok (some (Store.claimed worker now.text w))))
        (s.updateWork w.id (Store.claimed worker now.text))
  | finished {w : Work} (member : w ∈ s.works.rows) (running : w.status = .running)
      (ending : Store.Ending) (code message : Bytes) (now : Instant) :
      Steps s (.finish w.id (utf8 ending.status.name) code message now) (.finished (.ok ()))
        (s.updateWork w.id (Store.finished ending code message now.text))
  | reset (stage : Bytes) (now : Instant) :
      Steps s (.reset stage now) (.reset (.ok (s.failedWork stage).length))
        (s.resetFailed stage now).2

theorem insertWork_queued (s : Store) (unit : RowId) (stage : Bytes) (availableAt : Instant) :
    s.insertWork ⟨unit, stage, utf8 Status.queued.name, 0, availableAt⟩
      = if (s.unit? unit).isNone then .error .reference
        else .ok (s.works.next,
          { s with works := s.works.push (Work.fresh unit stage availableAt) }) := by
  rw [Store.insertWork, Status.ofText?_name]
  rfl

theorem finishWork?_of_running {s : Store} {w : Work} (member : w ∈ s.works.rows)
    (running : w.status = .running) (ending : Store.Ending) (code message : Bytes) (now : Instant) :
    s.finishWork? w.id ending code message now
      = some (s.updateWork w.id (Store.finished ending code message now.text)) := by
  rw [Store.finishWork?, if_pos]
  exact List.any_eq_true.2 ⟨w, member, by simp [running]⟩

theorem finishWork?_eq_none_iff {s : Store} {id : RowId} {ending : Store.Ending}
    {code message : Bytes} {now : Instant} :
    s.finishWork? id ending code message now = none ↔
      ∀ w ∈ s.works.rows, w.id = id → w.status ≠ .running := by
  rw [Store.finishWork?]
  split_ifs with found
  · obtain ⟨w, member, both⟩ := List.any_eq_true.1 found
    rw [Bool.and_eq_true, beq_iff_eq, beq_iff_eq] at both
    simp only [false_iff]
    intro none
    exact none w member both.1 both.2
  · simpa using found

theorem steps_run (s : Store) (call : Call) :
    ∃ after, (call.run (.ofStore s)).2 = .ofStore after ∧
      Steps s call (call.run (.ofStore s)).1 after := by
  cases call with
  | insert unit stage availableAt =>
      simp only [Call.run, Connection.insertWork, Connection.insert_ofStore, insertWork_queued]
      by_cases absent : (s.unit? unit).isNone
      · simp only [absent, if_true]
        exact ⟨s, rfl, .refused fun id claimed => by cases claimed⟩
      · simp only [absent]
        exact ⟨_, rfl, .inserted unit stage availableAt⟩
  | claim stage worker now =>
      simp only [Call.run, Connection.claimWork_ofStore, Store.claimWork]
      cases next : s.nextWork? stage now.text with
      | none => exact ⟨s, rfl, .refused fun id claimed => by cases claimed⟩
      | some w =>
          obtain ⟨member, claimable⟩ := Store.mem_of_nextWork? next
          exact ⟨_, rfl, .claimed worker member claimable⟩
  | finish id status code message now =>
      simp only [Call.run, Connection.finishWork_ofStore]
      cases known : Store.Ending.ofText? status with
      | none => exact ⟨s, rfl, .refused fun id claimed => by cases claimed⟩
      | some ending =>
          obtain rfl := Store.Ending.ofText?_eq_some_iff.1 known
          by_cases found : ∃ w ∈ s.works.rows, w.id = id ∧ w.status = .running
          · obtain ⟨w, member, rfl, running⟩ := found
            simp only [finishWork?_of_running member running]
            exact ⟨_, rfl, .finished member running ending code message now⟩
          · have absent : s.finishWork? id ending code message now = none := by
              rw [finishWork?_eq_none_iff]
              intro w member own running
              exact found ⟨w, member, own, running⟩
            simp only [absent]
            exact ⟨s, rfl, .refused fun id claimed => by cases claimed⟩
  | reset stage now => exact ⟨_, rfl, .reset stage now⟩

/-- The turns that a job's status can take, each with the call that makes it. -/
inductive Turns (w : Work) : Event → Status → Prop
  | claim (queued : w.status = .queued) (worker : Bytes) (now : Instant) :
      Turns w ⟨.claim w.stage worker now, .claimed (.ok (some (Store.claimed worker now.text w)))⟩
        .running
  | finish (running : w.status = .running) (ending : Store.Ending) (code message : Bytes)
      (now : Instant) :
      Turns w ⟨.finish w.id (utf8 ending.status.name) code message now, .finished (.ok ())⟩
        ending.status
  | reset (failed : w.status = .failed) (now : Instant) (count : Nat) :
      Turns w ⟨.reset w.stage now, .reset (.ok count)⟩ .queued

namespace Turns

variable {w : Work} {e : Event} {status : Status}

theorem not_ok (turn : Turns w e status) : w.status ≠ .ok := by
  cases turn <;> simp_all

theorem of_failed (turn : Turns w e status) (failed : w.status = .failed) :
    ∃ now count, e = ⟨.reset w.stage now, .reset (.ok count)⟩ := by
  cases turn with
  | claim queued => simp [queued] at failed
  | finish running => simp [running] at failed
  | reset _ now count => exact ⟨now, count, rfl⟩

theorem of_running (turn : Turns w e status) (running : w.status = .running) :
    ∃ (ending : Store.Ending) (code message : Bytes) (now : Instant),
      e = ⟨.finish w.id (utf8 ending.status.name) code message now, .finished (.ok ())⟩ ∧
        status = ending.status := by
  cases turn with
  | claim queued => simp [queued] at running
  | finish _ ending code message now => exact ⟨ending, code, message, now, rfl, rfl⟩
  | reset failed => simp [failed] at running

end Turns

variable {s after : Store} {call : Call} {answer : Answer}

theorem Steps.numbered (numbered : s.works.Numbered Work.id) (step : Steps s call answer after) :
    after.works.Numbered Work.id := by
  cases step with
  | refused => exact numbered
  | inserted => exact numbered.push rfl
  | claimed =>
      apply numbered.map
      intro row
      split <;> rfl
  | finished =>
      apply numbered.map
      intro row
      split <;> rfl
  | reset =>
      apply numbered.map
      intro row
      split <;> rfl

theorem Steps.turns (numbered : s.works.Numbered Work.id) (step : Steps s call answer after)
    {w : Work} (member : w ∈ s.works.rows) :
    ∃ row ∈ after.works.rows, row.id = w.id ∧ row.stage = w.stage ∧
      (row = w ∨ Turns w ⟨call, answer⟩ row.status) := by
  cases step with
  | refused => exact ⟨w, member, rfl, rfl, .inl rfl⟩
  | inserted => exact ⟨w, List.mem_append_left _ member, rfl, rfl, .inl rfl⟩
  | @claimed stage worker now job present claimable =>
      by_cases own : w.id = job.id
      · obtain rfl := numbered.eq_of_id member present own
        obtain ⟨rfl, queued, _⟩ := Store.isClaimable_iff.1 claimable
        exact ⟨_, (Store.mem_updateWork numbered member).2 (.inl rfl), rfl, rfl,
          .inr (.claim queued worker now)⟩
      · exact ⟨w, (Store.mem_updateWork numbered present).2 (.inr ⟨member, own⟩), rfl, rfl,
          .inl rfl⟩
  | @finished job present running ending code message now =>
      by_cases own : w.id = job.id
      · obtain rfl := numbered.eq_of_id member present own
        exact ⟨_, (Store.mem_updateWork numbered member).2 (.inl rfl), rfl, rfl,
          .inr (.finish running ending code message now)⟩
      · exact ⟨w, (Store.mem_updateWork numbered present).2 (.inr ⟨member, own⟩), rfl, rfl,
          .inl rfl⟩
  | reset stage now =>
      refine ⟨_, List.mem_map_of_mem member, ?_⟩
      split_ifs with found
      · obtain ⟨rfl, failed⟩ := Store.isFailed_iff.1 found
        exact ⟨rfl, rfl, .inr (.reset failed now _)⟩
      · exact ⟨rfl, rfl, .inl rfl⟩

structure Sound (s : Store) (events : List Event) : Prop where
  numbered : s.works.Numbered Work.id
  consistent : ∀ w ∈ s.works.rows, w.Consistent (claims w.id events)
  unclaimed : ∀ id, s.works.last < id → claims id events = 0

theorem claims_concat (id : RowId) (events : List Event) (e : Event) :
    claims id (events ++ [e]) = claims id events + if e.claims id then 1 else 0 := by
  rw [claims, List.countP_append, List.countP_singleton]
  rfl

theorem Sound.concat {events : List Event} (sound : Sound s events) {e : Event}
    (unclaimed : ∀ id, ¬ e.claims id) (numbered : after.works.Numbered Work.id)
    (grown : s.works.last ≤ after.works.last)
    (consistent : ∀ w ∈ after.works.rows, w.Consistent (claims w.id events)) :
    Sound after (events ++ [e]) := by
  have same (id : RowId) : claims id (events ++ [e]) = claims id events := by
    rw [claims_concat, if_neg (unclaimed id), Nat.add_zero]
  refine ⟨numbered, ?_, ?_⟩
  · intro w member
    rw [same]
    exact consistent w member
  · intro id above
    rw [same]
    exact sound.unclaimed id (lt_of_le_of_lt grown above)

theorem Sound.step {events : List Event} (sound : Sound s events)
    (step : Steps s call answer after) : Sound after (events ++ [⟨call, answer⟩]) := by
  have numbered := step.numbered sound.numbered
  -- A claim changes the counts, and only that of its own job. All other calls go by `concat`.
  cases step with
  | refused unclaimed => exact sound.concat unclaimed numbered (le_refl _) sound.consistent
  | inserted unit stage availableAt =>
      refine sound.concat (by simp [Event.claims]) numbered (Int.le_add_one (le_refl _)) ?_
      intro w member
      rcases List.mem_append.1 member with before | last
      · exact sound.consistent w before
      · rw [List.mem_singleton.1 last]
        have none := sound.unclaimed s.works.next (Int.lt_add_one_of_le (le_refl _))
        exact none ▸ Work.Consistent.fresh unit stage availableAt s.works.next
  | @claimed stage worker now job present claimable =>
      have counted (id : RowId) : claims id (events ++ [⟨.claim stage worker now,
          .claimed (.ok (some (Store.claimed worker now.text job)))⟩])
            = claims id events + if job.id = id then 1 else 0 := by
        simp [claims_concat, Event.claims, Store.claimed]
      refine ⟨numbered, ?_, ?_⟩
      · intro w member
        rw [counted]
        rcases (Store.mem_updateWork sound.numbered present).1 member with rfl | ⟨before, other⟩
        · have queued := (Store.isClaimable_iff.1 claimable).2.1
          have counts : (if job.id = (Store.claimed worker now.text job).id then 1 else 0) = 1 :=
            if_pos rfl
          rw [counts]
          exact (sound.consistent job present).claimed queued worker now.text
        · rw [if_neg (Ne.symm other)]
          exact sound.consistent w before
      · intro id above
        have bounded := sound.numbered.bounded job present
        rw [counted, if_neg (ne_of_lt (lt_of_le_of_lt bounded above))]
        exact sound.unclaimed id above
  | @finished job present running ending code message now =>
      refine sound.concat (by simp [Event.claims]) numbered (le_refl _) ?_
      intro w member
      rcases (Store.mem_updateWork sound.numbered present).1 member with rfl | ⟨before, _⟩
      · exact (sound.consistent job present).finished ending code message now.text
      · exact sound.consistent w before
  | reset stage now =>
      refine sound.concat (by simp [Event.claims]) numbered (le_refl _) ?_
      intro w member
      obtain ⟨before, inside, rfl⟩ := List.mem_map.1 member
      split_ifs
      · exact (sound.consistent before inside).requeued now.text
      · exact sound.consistent before inside

theorem Steps.claims {id : RowId} (numbered : s.works.Numbered Work.id)
    (step : Steps s call answer after) (claims : Event.claims id ⟨call, answer⟩) :
    (∃ w ∈ s.works.rows, w.id = id ∧ w.status = .queued) ∧
      ∃ row ∈ after.works.rows, row.id = id ∧ row.status = .running := by
  cases step with
  | refused unclaimed => exact absurd claims (unclaimed id)
  | inserted | finished | reset => cases claims
  | @claimed stage worker now w member claimable =>
      have own : w.id = id := beq_iff_eq.1 claims
      exact ⟨⟨w, member, own, (Store.isClaimable_iff.1 claimable).2.1⟩,
        ⟨_, (Store.mem_updateWork numbered member).2 (.inl rfl), own, rfl⟩⟩

inductive Runs : Store → List Event → Store → Prop
  | nil (s : Store) : Runs s [] s
  | cons {s middle after : Store} {call : Call} {answer : Answer} {events : List Event}
      (step : Steps s call answer middle) (more : Runs middle events after) :
      Runs s (⟨call, answer⟩ :: events) after

theorem runs_run (s : Store) (calls : List Call) :
    ∃ after, (run (.ofStore s) calls).2 = .ofStore after ∧
      Runs s (run (.ofStore s) calls).1 after := by
  induction calls generalizing s with
  | nil => exact ⟨s, rfl, .nil s⟩
  | cons call calls ih =>
      obtain ⟨middle, reached, step⟩ := steps_run s call
      obtain ⟨after, last, more⟩ := ih middle
      rw [← reached] at last more
      exact ⟨after, last, .cons step more⟩

namespace Runs

variable {events : List Event}

theorem sound {past : List Event} (runs : Runs s events after) (sound : Sound s past) :
    Sound after (past ++ events) := by
  induction runs generalizing past with
  | nil s => rwa [List.append_nil]
  | @cons _ _ _ call answer events step more ih =>
      have later := ih (sound.step step)
      rwa [List.append_assoc] at later

theorem numbered (runs : Runs s events after) (numbered : s.works.Numbered Work.id) :
    after.works.Numbered Work.id := by
  induction runs with
  | nil => exact numbered
  | cons step more ih => exact ih (step.numbered numbered)

theorem split {first second : List Event} (runs : Runs s (first ++ second) after) :
    ∃ middle, Runs s first middle ∧ Runs middle second after := by
  induction first generalizing s with
  | nil => exact ⟨s, .nil s, runs⟩
  | cons e first ih =>
      cases runs with
      | cons step more =>
          obtain ⟨middle, before, behind⟩ := ih more
          exact ⟨middle, .cons step before, behind⟩

theorem kept (runs : Runs s events after) (numbered : s.works.Numbered Work.id) {w : Work}
    (member : w ∈ s.works.rows) :
    ∃ row ∈ after.works.rows, row.id = w.id ∧ row.stage = w.stage := by
  induction runs generalizing w with
  | nil => exact ⟨w, member, rfl, rfl⟩
  | cons step more ih =>
      obtain ⟨next, inside, id, stage, _⟩ := step.turns numbered member
      obtain ⟨row, last, own, same⟩ := ih (step.numbered numbered) inside
      exact ⟨row, last, own.trans id, same.trans stage⟩

/-- A job that has changed in the end took a turn at some event, and was as before until then. -/
theorem exists_first_turn (runs : Runs s events after) (numbered : s.works.Numbered Work.id)
    {w row : Work} (member : w ∈ s.works.rows) (later : row ∈ after.works.rows)
    (own : row.id = w.id) (changed : row ≠ w) :
    ∃ before e behind middle next, events = before ++ e :: behind ∧ Turns w e next.status ∧
      next ∈ middle.works.rows ∧ next.id = w.id ∧ next.stage = w.stage ∧
      middle.works.Numbered Work.id ∧ Runs middle behind after := by
  -- Along the run, up to the first event at which the status turns; the row is the same until then.
  induction runs with
  | nil => exact absurd (numbered.eq_of_id later member own) changed
  | @cons _ _ _ call answer events step more ih =>
      have renumbered := step.numbered numbered
      obtain ⟨next, inside, id, stage, same | turn⟩ := step.turns numbered member
      · subst same
        obtain ⟨before, e, behind, middle, next, rfl, turn⟩ := ih renumbered inside later
        exact ⟨⟨call, answer⟩ :: before, e, behind, middle, next, rfl, turn⟩
      · exact ⟨[], _, events, _, next, rfl, turn, inside, id, stage, renumbered, more⟩

theorem ok_stays (runs : Runs s events after) (numbered : s.works.Numbered Work.id) {w : Work}
    (member : w ∈ s.works.rows) (ok : w.status = .ok) : w ∈ after.works.rows := by
  obtain ⟨row, later, own, _⟩ := runs.kept numbered member
  by_cases same : row = w
  · exact same ▸ later
  · obtain ⟨_, _, _, _, _, _, turn, _⟩ :=
      runs.exists_first_turn numbered member later own same
    exact absurd ok turn.not_ok

theorem reset_between (runs : Runs s events after) (numbered : s.works.Numbered Work.id)
    {w row : Work} (member : w ∈ s.works.rows) (failed : w.status = .failed)
    (later : row ∈ after.works.rows) (own : row.id = w.id) (queued : row.status = .queued) :
    ∃ before behind now count,
      events = before ++ ⟨.reset w.stage now, .reset (.ok count)⟩ :: behind := by
  have changed : row ≠ w := by
    rintro rfl
    rw [failed] at queued
    cases queued
  obtain ⟨before, e, behind, _, _, split, turn, _⟩ :=
    runs.exists_first_turn numbered member later own changed
  obtain ⟨now, count, rfl⟩ := turn.of_failed failed
  exact ⟨before, behind, now, count, split⟩

theorem finish_between (runs : Runs s events after) (numbered : s.works.Numbered Work.id)
    {w row : Work} (member : w ∈ s.works.rows) (running : w.status = .running)
    (later : row ∈ after.works.rows) (own : row.id = w.id) (queued : row.status = .queued) :
    ∃ before between behind code message finishedAt resetAt count,
      events = before
        ++ ⟨.finish w.id (utf8 Status.failed.name) code message finishedAt, .finished (.ok ())⟩
        :: (between ++ ⟨.reset w.stage resetAt, .reset (.ok count)⟩ :: behind) := by
  have changed : row ≠ w := by
    rintro rfl
    rw [running] at queued
    cases queued
  obtain ⟨before, e, rest, middle, next, rfl, turn, inside, id, stage, renumbered, more⟩ :=
    runs.exists_first_turn numbered member later own changed
  obtain ⟨ending, code, message, now, rfl, status⟩ := turn.of_running running
  have same : row.id = next.id := own.trans id.symm
  cases ending with
  | ok =>
      have stays := more.ok_stays renumbered inside status
      rw [(more.numbered renumbered).eq_of_id later stays same, status] at queued
      cases queued
  | failed =>
      obtain ⟨between, behind, resetAt, count, rfl⟩ :=
        more.reset_between renumbered inside status later same queued
      exact ⟨before, between, behind, code, message, now, resetAt, count, by rw [stage]; rfl⟩

end Runs

structure Lawful (c : Connection) (events : List Event) : Prop where
  consistent : ∀ w ∈ c.store.works.rows, w.Consistent (claims w.id events)
  turns : ∀ (call : Call), ∀ w ∈ c.store.works.rows, ∃ row ∈ (call.run c).2.store.works.rows,
    row.id = w.id ∧ (∀ other ∈ (call.run c).2.store.works.rows, other.id = w.id → other = row) ∧
      (row = w ∨ Turns w ⟨call, (call.run c).1⟩ row.status)
  ok : ∀ (calls : List Call), ∀ w ∈ c.store.works.rows, w.status = .ok →
    w ∈ (run c calls).2.store.works.rows
  reclaimed : ∀ id before between behind first second,
    events = before ++ first :: (between ++ second :: behind) →
    first.claims id → second.claims id →
    ∃ a b d stage code message finishedAt resetAt count, between = a
      ++ ⟨.finish id (utf8 Status.failed.name) code message finishedAt, .finished (.ok ())⟩
      :: (b ++ ⟨.reset stage resetAt, .reset (.ok count)⟩ :: d) ∧
      ∀ w ∈ c.store.works.rows, w.id = id → w.stage = stage
  finish : ∀ id status code message now,
    (∃ e, (c.finishWork id status code message now).1 = .error e) ↔
      (status ≠ utf8 Status.ok.name ∧ status ≠ utf8 Status.failed.name) ∨
        ∀ w ∈ c.store.works.rows, w.id = id → w.status ≠ .running
  refused : ∀ id status code message now e,
    (c.finishWork id status code message now).1 = .error e →
      (c.finishWork id status code message now).2 = c

theorem Runs.reclaimed {events : List Event} (runs : Runs s events after)
    (numbered : s.works.Numbered Work.id) {id : RowId} {before between behind : List Event}
    {first second : Event} (split : events = before ++ first :: (between ++ second :: behind))
    (claimed : first.claims id) (again : second.claims id) :
    ∃ a b d stage code message finishedAt resetAt count, between = a
      ++ ⟨.finish id (utf8 Status.failed.name) code message finishedAt, .finished (.ok ())⟩
      :: (b ++ ⟨.reset stage resetAt, .reset (.ok count)⟩ :: d) ∧
      ∀ w ∈ after.works.rows, w.id = id → w.stage = stage := by
  subst split
  obtain ⟨s₁, toFirst, fromFirst⟩ := runs.split
  cases fromFirst with
  | cons claim rest =>
      obtain ⟨s₃, toSecond, fromSecond⟩ := rest.split
      cases fromSecond with
      | cons reclaim last =>
          have numbered₁ := toFirst.numbered numbered
          have numbered₂ := claim.numbered numbered₁
          have numbered₃ := toSecond.numbered numbered₂
          have running := (claim.claims numbered₁ claimed).2
          have queued := (reclaim.claims numbered₃ again).1
          obtain ⟨w, member, rfl, running⟩ := running
          obtain ⟨row, later, own, queued⟩ := queued
          obtain ⟨a, b, d, code, message, finishedAt, resetAt, count, parts⟩ :=
            toSecond.finish_between numbered₂ member running later own queued
          refine ⟨a, b, d, w.stage, code, message, finishedAt, resetAt, count, parts, ?_⟩
          intro other present same
          obtain ⟨end₂, inside, ownEnd, stage⟩ := rest.kept numbered₂ member
          rw [(rest.numbered numbered₂).eq_of_id present inside (same.trans ownEnd.symm), stage]

theorem finishWork_fails (s : Store) (id : RowId) (status code message : Bytes) (now : Instant) :
    ((∃ e, ((Connection.ofStore s).finishWork id status code message now).1 = .error e) ↔
      (status ≠ utf8 Status.ok.name ∧ status ≠ utf8 Status.failed.name) ∨
        ∀ w ∈ s.works.rows, w.id = id → w.status ≠ .running) ∧
      ∀ e, ((Connection.ofStore s).finishWork id status code message now).1 = .error e →
        ((Connection.ofStore s).finishWork id status code message now).2 = .ofStore s := by
  rw [Connection.finishWork_ofStore]
  cases known : Store.Ending.ofText? status with
  | none =>
      have other (ending : Store.Ending) : status ≠ utf8 ending.status.name := by
        intro same
        rw [Store.Ending.ofText?_eq_some_iff.2 same] at known
        cases known
      exact ⟨⟨fun _ => .inl ⟨other .ok, other .failed⟩, fun _ => ⟨_, rfl⟩⟩, fun _ _ => rfl⟩
  | some ending =>
      have named := Store.Ending.ofText?_eq_some_iff.1 known
      have ends : ¬ (status ≠ utf8 Status.ok.name ∧ status ≠ utf8 Status.failed.name) := by
        rintro ⟨notOk, notFailed⟩
        cases ending with
        | ok => exact notOk named
        | failed => exact notFailed named
      dsimp only
      cases done : s.finishWork? id ending code message now with
      | none =>
          have absent := finishWork?_eq_none_iff.1 done
          exact ⟨⟨fun _ => .inr absent, fun _ => ⟨_, rfl⟩⟩, fun _ _ => rfl⟩
      | some after =>
          refine ⟨⟨?_, ?_⟩, ?_⟩
          · rintro ⟨e, failed⟩
            cases failed
          · rintro (noEnding | absent)
            · exact absurd noEnding ends
            · have none : s.finishWork? id ending code message now = none :=
                finishWork?_eq_none_iff.2 absent
              rw [none] at done
              cases done
          · intro e failed
            cases failed

/-- Behind every sequence of calls on a queue that was empty at first, whoever makes them and
whenever: the columns of every job agree with its status, and its attempts with its claims. A
further call leaves a job as it is or turns its status from queued to running by a claim, from
running to ok or failed by a finish, or from failed to queued by a reset of its stage; so a job that
is ok stays as it is, and between two claims of a job it was finished as failed and its stage was
reset. Finishing fails exactly when the status asked for is no ending or the job is not there or not
running, and changes nothing then. -/
theorem queue_lawful (s : Store) (empty : s.works.rows = []) (calls : List Call) :
    Lawful (run (.ofStore s) calls).2 (run (.ofStore s) calls).1 := by
  obtain ⟨after, reached, runs⟩ := runs_run s calls
  have numbered : s.works.Numbered Work.id := .of_nil empty
  have initial : Sound s [] := by
    refine ⟨numbered, ?_, fun _ _ => rfl⟩
    rw [empty]
    intro w member
    cases member
  have sound := runs.sound initial
  rw [List.nil_append] at sound
  rw [reached]
  refine ⟨sound.consistent, ?_, ?_, ?_, ?_, ?_⟩
  · intro call w member
    obtain ⟨next, nextReached, step⟩ := steps_run after call
    obtain ⟨row, inside, id, _, change⟩ := step.turns sound.numbered member
    rw [nextReached]
    refine ⟨row, inside, id, ?_, change⟩
    intro other present same
    exact (step.numbered sound.numbered).eq_of_id present inside (same.trans id.symm)
  · intro calls w member ok
    obtain ⟨last, lastReached, more⟩ := runs_run after calls
    rw [lastReached]
    exact more.ok_stays sound.numbered member ok
  · intro id before between behind first second split claimed again
    exact runs.reclaimed numbered split claimed again
  · intro id status code message now
    exact (finishWork_fails after id status code message now).1
  · intro id status code message now
    exact (finishWork_fails after id status code message now).2

theorem queue_lawful_retry :
    let s : Store := { units := ⟨[⟨1, none, [], [], 0, [], []⟩], 1⟩ }
    let stage := utf8 "scan"
    let calls : List Call :=
      [.insert 1 stage ⟨0⟩, .insert 2 stage ⟨0⟩, .claim stage [] ⟨0⟩, .claim stage [] ⟨0⟩,
        .finish 1 (utf8 "failed") (utf8 "FILE") [] ⟨1⟩, .reset stage ⟨2⟩, .claim stage [] ⟨3⟩,
        .finish 1 (utf8 "queued") [] [] ⟨3⟩, .finish 1 (utf8 "ok") [] [] ⟨4⟩]
    s.works.rows = [] ∧ Lawful (run (.ofStore s) calls).2 (run (.ofStore s) calls).1 ∧
      (run (.ofStore s) calls).2.store.works.rows.map (fun w => (w.status, w.attempt))
        = [(.ok, 2)] := by
  intro s stage calls
  exact ⟨rfl, queue_lawful s rfl calls, by decide +kernel⟩

end Queue

end AsnLexis
