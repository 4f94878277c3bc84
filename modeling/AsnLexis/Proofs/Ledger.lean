import AsnLexis.Proofs.Drain
import AsnLexis.Proofs.Persistence
import Mathlib

/-! A store together with the workers on it and the attempts that were made so far. Files are taken
in, failed jobs are queued again and workers take turns, all in any order; what the store says about a
job always agrees with the last attempt at it. -/

namespace AsnLexis

/-- Of the diagnostics of a scan only the last can be fatal, and is so exactly if the scan has a
fatal code: its own. -/
inductive ScanDiagnostic.Stops : List ScanDiagnostic → Option Bytes → Prop
  | sound {ds : List ScanDiagnostic} (mild : ∀ d ∈ ds, d.fatal = false) : Stops ds none
  | stopped {front : List ScanDiagnostic} {last : ScanDiagnostic} {code : Bytes}
      (mild : ∀ d ∈ front, d.fatal = false) (fatal : last.fatal = true)
      (own : last.code = code) : Stops (front ++ [last]) (some code)

/-- A scan counts its diagnostics and literals, which are numbered from one, and its fatal code is
that of its last diagnostic. -/
structure Scan.Whole (scan : Scan) (diagnostics : List ScanDiagnostic) (literals : List ScanLiteral) :
    Prop where
  diagnosticCount : scan.diagnostics = diagnostics.length
  literalCount : scan.literals = literals.length
  seqs : diagnostics.map ScanDiagnostic.seq = (List.range' 1 diagnostics.length).map (↑·)
  handles : literals.map ScanLiteral.handle = (List.range' 1 literals.length).map (↑·)
  fatal : ScanDiagnostic.Stops diagnostics scan.fatalCode

def ScanContent.Whole (x : ScanContent) : Prop := x.scan.Whole x.diagnostics x.literals

theorem ScanDiagnostic.Stops.of_bare {ds : List ScanDiagnostic} {code : Option Bytes}
    (stops : Stops (ds.map bare) code) : Stops ds code := by
  generalize same : ds.map bare = rows at stops
  cases stops with
  | sound mild =>
      refine .sound fun d member => ?_
      exact mild d.bare (same ▸ List.mem_map_of_mem member)
  | stopped mild fatal own =>
      obtain ⟨front, back, rfl, rfl, single⟩ := List.map_eq_append_iff.1 same
      obtain ⟨last, rfl, rfl⟩ := List.map_eq_singleton_iff.1 single
      refine .stopped (fun d member => ?_) fatal own
      exact mild d.bare (List.mem_map_of_mem member)

theorem Store.whole_of_contentOf {s : Store} {scan : Scan} (whole : (s.contentOf scan).Whole) :
    scan.Whole (s.diagnosticsOf scan.id) (s.literalsOf scan.id) := by
  obtain ⟨diagnosticCount, literalCount, seqs, handles, fatal⟩ := whole
  constructor
  · simpa [contentOf, Scan.bare] using diagnosticCount
  · simpa [contentOf, Scan.bare] using literalCount
  · simpa [contentOf, Function.comp_def, ScanDiagnostic.bare] using seqs
  · simpa [contentOf, Function.comp_def, ScanLiteral.bare] using handles
  · exact .of_bare fatal

theorem Tokenized.mild_numbered {seq : Nat} {ds : List Diagnostic}
    (mild : ∀ d ∈ ds, d.fatal = false) :
    ∀ row ∈ (numbered seq ds).map (Store.diagnosticRow 0 · 0), row.fatal = false := by
  intro row member
  obtain ⟨new, inside, rfl⟩ := List.mem_map.1 member
  rw [numbered_eq] at inside
  obtain ⟨⟨d, k⟩, pair, rfl⟩ := List.mem_map.1 inside
  exact mild d (List.fst_mem_of_mem_zipIdx pair)

theorem whole_newScan (name : Bytes) (settings : Settings) (input : Bytes) (unit : RowId)
    (now : Instant) : ((tokenize name settings input).newScan unit now).content.Whole := by
  have handles := handles_tokenize name settings input
  have size := congrArg List.length handles
  rw [List.length_map, List.length_range'] at size
  have stops := stops_tokenize name settings input
  constructor
  · simp [Store.NewScan.content, Store.scanRow, Tokenized.newScan, Tokenized.numbered_eq]
  · simp [Store.NewScan.content, Store.scanRow, Tokenized.newScan, size]
  · have seqs := Tokenized.map_seq_numbered 1 (tokenize name settings input).diagnostics
    have length := congrArg List.length seqs
    simp only [List.length_map, List.length_range'] at length
    simp only [Store.NewScan.content, Tokenized.newScan, List.map_map, List.length_map, length]
    exact seqs
  · simp only [Store.NewScan.content, Tokenized.newScan, List.map_map, List.length_map, size,
      ← handles]
    rfl
  · simp only [Store.NewScan.content, Store.scanRow, Tokenized.newScan]
    generalize (tokenize name settings input).diagnostics = ds,
      (tokenize name settings input).fatal = fatal at stops
    cases stops with
    | sound mild => exact .sound (Tokenized.mild_numbered mild)
    | @stopped front last e mild fatal code =>
        have told : present (utf8 e.code.name) = some (utf8 e.code.name) := by
          simp [present, Code.name_ne_nil]
        have split : (Tokenized.numbered 1 (front ++ [last])).map (Store.diagnosticRow 0 · 0)
            = (Tokenized.numbered 1 front).map (Store.diagnosticRow 0 · 0)
              ++ [⟨0, 0, (1 + front.length : Nat), last.code, last.severity.lowerName, last.message,
                last.fatal, last.span⟩] := by
          simp [Tokenized.numbered_eq, List.zipIdx_append, Store.diagnosticRow]
        simp only [Option.map_some, Option.getD_some, told, split]
        exact .stopped (Tokenized.mild_numbered mild) fatal code

namespace Store

structure Enlisted (s : Store) : Prop where
  units : s.units.Numbered SourceUnit.id
  digests : (s.units.rows.map SourceUnit.digest).Nodup
  jobs : s.works.rows.map Work.unit = s.units.rows.map SourceUnit.id
  stages : ∀ j ∈ s.works.rows, j.stage = scanStage

def jobsOf (s : Store) (unit : RowId) : List Work :=
  s.works.rows.filter fun j => j.unit == unit && j.stage == scanStage

namespace Enlisted

variable {s after : Store} {j k : Work} {u : NewUnit}

theorem empty : ({} : Store).Enlisted where
  units := .of_nil rfl
  digests := .nil
  jobs := rfl
  stages j member := by cases member

theorem of_works (enlisted : s.Enlisted) (units : after.units = s.units) {f : Work → Work}
    (works : after.works.rows = s.works.rows.map f)
    (keeps : ∀ j, (f j).unit = j.unit ∧ (f j).stage = j.stage) : after.Enlisted where
  units := units ▸ enlisted.units
  digests := units ▸ enlisted.digests
  jobs := by
    rw [works, units, List.map_map, ← enlisted.jobs]
    exact List.map_congr_left fun j _ => (keeps j).1
  stages j member := by
    rw [works] at member
    obtain ⟨before, inside, rfl⟩ := List.mem_map.1 member
    exact (keeps before).2.trans (enlisted.stages before inside)

theorem updateWork (enlisted : s.Enlisted) (id : RowId) {f : Work → Work}
    (keeps : ∀ j, (f j).unit = j.unit ∧ (f j).stage = j.stage) : (s.updateWork id f).Enlisted :=
  enlisted.of_works rfl rfl fun j => by split_ifs <;> simp [keeps]

theorem withUnit (enlisted : s.Enlisted) (new : s.unitByDigest? u.digest = none) (now : Instant) :
    ((s.withUnit u).withWork s.units.next now).Enlisted where
  units := enlisted.units.push rfl
  digests := by
    have fresh : u.digest ∉ s.units.rows.map SourceUnit.digest := by
      intro member
      obtain ⟨unit, inside, same⟩ := List.mem_map.1 member
      simpa [same] using List.find?_eq_none.1 new unit inside
    simpa [Store.withUnit, withWork, Table.push, unitRow] using
      (List.nodup_concat _ _).2 ⟨fresh, enlisted.digests⟩
  jobs := by
    simp [Store.withUnit, withWork, Table.push, enlisted.jobs, unitRow, Work.fresh]
  stages j member := by
    rcases List.mem_append.1 member with before | last
    · exact enlisted.stages j before
    · rw [List.mem_singleton.1 last]
      rfl

theorem eq_of_unit (enlisted : s.Enlisted) (first : j ∈ s.works.rows) (second : k ∈ s.works.rows)
    (same : j.unit = k.unit) : j = k :=
  List.inj_on_of_nodup_map (enlisted.jobs ▸ enlisted.units.nodup) first second same

theorem exists_unit (enlisted : s.Enlisted) (member : j ∈ s.works.rows) :
    ∃ u ∈ s.units.rows, u.id = j.unit :=
  List.mem_map.1 (enlisted.jobs ▸ List.mem_map_of_mem member)

theorem exists_jobsOf (enlisted : s.Enlisted) {u : SourceUnit} (member : u ∈ s.units.rows) :
    ∃ job, s.jobsOf u.id = [job] := by
  have nodup : (s.works.rows.map Work.unit).Nodup := enlisted.jobs ▸ enlisted.units.nodup
  have once : (s.works.rows.map Work.unit).count u.id = 1 :=
    List.count_eq_one_of_mem nodup (enlisted.jobs ▸ List.mem_map_of_mem member)
  have all : s.jobsOf u.id = s.works.rows.filter (·.unit == u.id) := by
    apply List.filter_congr
    intro j inside
    simp [enlisted.stages j inside]
  rw [← List.length_eq_one_iff, all, ← List.countP_eq_length_filter, ← once, List.count,
    List.countP_map]
  rfl

end Enlisted

def contentsOf (s : Store) (unit : RowId) : List ScanContent :=
  s.contents.filter (·.scan.unit == unit)

def account (s : Store) (unit : RowId) : Option SourceUnit × List ScanContent :=
  (s.unit? unit, s.contentsOf unit)

theorem unit?_isSome_iff {s : Store} {id : RowId} :
    (s.unit? id).isSome ↔ ∃ u ∈ s.units.rows, u.id = id := by
  simp [unit?]

theorem unit?_withUnit_of_isSome {s : Store} {u : NewUnit} {id : RowId} (there : (s.unit? id).isSome) :
    (s.withUnit u).unit? id = s.unit? id := by
  obtain ⟨unit, found⟩ := Option.isSome_iff_exists.1 there
  have earlier : s.units.rows.find? (·.id == id) = some unit := found
  rw [found, unit?, withUnit, Table.push, List.find?_append, earlier]
  rfl

end Store

/-- An attempt at a job: how the unit was to be scanned, and the workspace as it was then. -/
structure Attempt where
  job : RowId
  settings : ScanSettings
  workspace : Workspace

namespace Attempt

def reading (a : Attempt) (unit : RowId) : Workspace.Reading :=
  a.workspace.attempt a.settings unit

def last? (log : List Attempt) (job : RowId) : Option Attempt :=
  (log.filter (·.job == job)).getLast?

theorem last?_concat_self (log : List Attempt) (a : Attempt) :
    last? (log ++ [a]) a.job = some a := by
  simp [last?, List.filter_append]

theorem last?_concat_other (log : List Attempt) {a : Attempt} {job : RowId} (other : a.job ≠ job) :
    last? (log ++ [a]) job = last? log job := by
  simp [last?, List.filter_append, other]

/-- What a store says about a unit, and what is kept of its job's end, agrees with an attempt. -/
structure Tells (a : Attempt) (s : Store) (unit : RowId) (kept : Option (Bytes × Bytes)) : Prop where
  known : a.workspace.link.store.unit? unit = s.unit? unit
  kept : (a.reading unit).kept = kept
  latest : ∀ x, (a.reading unit).untimed = some x →
    (s.contentsOf unit).getLast?.map ScanContent.untimed = some x

def Told (log : List Attempt) (s : Store) (job unit : RowId) (kept : Option (Bytes × Bytes)) : Prop :=
  ∃ a, last? log job = some a ∧ a.Tells s unit kept

theorem content_reading {a : Attempt} {unit : RowId} {now : Instant} {x : ScanContent}
    (stored : (a.reading unit).content now = some x) : x.scan.unit = unit ∧ x.Whole := by
  cases came : a.reading unit with
  | failed failure =>
      rw [came] at stored
      cases stored
  | scanned u r =>
      obtain ⟨found, own, content, _, _, rfl⟩ :=
        Workspace.reading_eq_scanned (Workspace.attempt_eq_scanned came)
      have same : u.id = unit := by simpa using List.find?_some found
      rw [came] at stored
      cases stored
      exact ⟨same, whole_newScan ..⟩

section Performs

variable {a : Attempt} {s after : Store} {unit other : RowId} {now : Instant}
  {outcome : Workspace.JobOutcome}

theorem contentsOf_performs
    (performs : Workspace.Performs s after (a.reading unit) now outcome) :
    after.contentsOf unit = s.contentsOf unit ++ ((a.reading unit).content now).toList := by
  have own : ∀ x ∈ ((a.reading unit).content now).toList, (x.scan.unit == unit) = true :=
    fun x stored => beq_iff_eq.2 (content_reading (Option.mem_toList.1 stored)).1
  rw [Store.contentsOf, performs.contents, List.filter_append, List.filter_eq_self.2 own,
    ← Store.contentsOf]

theorem account_performs (performs : Workspace.Performs s after (a.reading unit) now outcome)
    (apart : other ≠ unit) : after.account other = s.account other := by
  have none : ((a.reading unit).content now).toList.filter (·.scan.unit == other) = [] := by
    refine List.filter_eq_nil_iff.2 fun x stored => ?_
    simpa [(content_reading (Option.mem_toList.1 stored)).1] using apart.symm
  rw [Store.account, Store.unit?, performs.units, ← Store.unit?, Store.contentsOf,
    performs.contents, List.filter_append, none, List.append_nil]
  rfl

theorem tells_performs (performs : Workspace.Performs s after (a.reading unit) now outcome)
    (at₀ : a.workspace.link.store = s) :
    a.Tells after unit (outcome.failure.map Workspace.JobFailure.kept) where
  known := by
    rw [at₀]
    exact congrArg (fun units => units.rows.find? (·.id == unit)) performs.units.symm
  kept := performs.kept.symm
  latest x stored := by
    rw [← Workspace.Reading.untimed_content _ now] at stored
    obtain ⟨y, came, rfl⟩ := Option.map_eq_some_iff.1 stored
    rw [contentsOf_performs performs, came]
    simp

theorem length_contentsOf_performs
    (performs : Workspace.Performs s after (a.reading unit) now outcome) :
    (after.contentsOf unit).length ≤ (s.contentsOf unit).length + 1 := by
  rw [contentsOf_performs performs, List.length_append]
  cases (a.reading unit).content now <;> simp

end Performs

theorem Told.congr {log later : List Attempt} {s after : Store} {job unit : RowId}
    {kept : Option (Bytes × Bytes)} (told : Told log s job unit kept)
    (last : last? later job = last? log job) (account : after.account unit = s.account unit) :
    Told later after job unit kept := by
  obtain ⟨known, contents⟩ := Prod.ext_iff.1 account
  obtain ⟨a, found, tells⟩ := told
  refine ⟨a, last.trans found, tells.known.trans known.symm, tells.kept, ?_⟩
  intro x stored
  rw [show after.contentsOf unit = s.contentsOf unit from contents]
  exact tells.latest x stored

end Attempt

def Work.EndsWith (j : Work) (kept : Option (Bytes × Bytes)) : Prop :=
  ∃ now before, j = Store.concluded kept now before

/-- The job that a worker holds runs. Before it is performed its unit has fewer scans than the job has
attempts; after that the store tells how it went. -/
def Phase.Backed (log : List Attempt) (s : Store) : Phase → Prop
  | .claimed job => (job ∈ s.works.rows ∧ job.status = .running) ∧
      (s.contentsOf job.unit).length < job.attempt
  | .performed job outcome => (job ∈ s.works.rows ∧ job.status = .running) ∧
      Attempt.Told log s job.id job.unit (outcome.failure.map Workspace.JobFailure.kept)
  | _ => True

theorem Phase.Backed.exists_running {log : List Attempt} {s : Store} {phase : Phase}
    (backed : phase.Backed log s) {id : RowId} (held : phase.held? = some id) :
    ∃ job ∈ s.works.rows, job.id = id ∧ job.status = .running := by
  cases phase with
  | idle => cases held
  | claimed job => exact ⟨job, backed.1.1, Option.some.inj held, backed.1.2⟩
  | performed job outcome => exact ⟨job, backed.1.1, Option.some.inj held, backed.1.2⟩
  | done => cases held

theorem Phase.Backed.frame {log later : List Attempt} {s after : Store} {phase : Phase}
    (backed : phase.Backed log s)
    (still : ∀ job ∈ s.works.rows, phase.held? = some job.id → job.status = .running →
      job ∈ after.works.rows ∧ after.account job.unit = s.account job.unit ∧
        Attempt.last? later job.id = Attempt.last? log job.id) : phase.Backed later after := by
  cases phase with
  | idle => trivial
  | claimed job =>
      obtain ⟨⟨member, running⟩, fewer⟩ := backed
      obtain ⟨inside, account, -⟩ := still job member rfl running
      refine ⟨⟨inside, running⟩, ?_⟩
      rwa [show after.contentsOf job.unit = s.contentsOf job.unit from congrArg Prod.snd account]
  | performed job outcome =>
      obtain ⟨⟨member, running⟩, told⟩ := backed
      obtain ⟨inside, account, last⟩ := still job member rfl running
      exact ⟨⟨inside, running⟩, told.congr last account⟩
  | done => trivial

/-- What holds between the attempts that were made, the workers and the tables of a store. -/
structure Ledger (log : List Attempt) (phases : List Phase) (s : Store) : Prop where
  keyed : s.Keyed
  enlisted : s.Enlisted
  whole : ∀ x ∈ s.contents, x.Whole
  home : ∀ x ∈ s.contents, (s.unit? x.scan.unit).isSome
  attempts : ∀ j ∈ s.works.rows, (s.contentsOf j.unit).length ≤ j.attempt
  told : ∀ j ∈ s.works.rows, j.ended →
    ∃ kept, j.EndsWith kept ∧ Attempt.Told log s j.id j.unit kept
  backed : ∀ phase ∈ phases, phase.Backed log s
  apart : (phases.filterMap Phase.held?).Nodup

namespace Ledger

variable {log : List Attempt} {phases front back : List Phase} {s after : Store} {j : Work}

theorem empty : Ledger [] [] {} where
  keyed := ⟨.of_nil rfl, .of_nil rfl, by simp, by simp⟩
  enlisted := .empty
  whole _ member := by cases member
  home _ member := by cases member
  attempts _ member := by cases member
  told _ member := by cases member
  backed _ member := by cases member
  apart := .nil

theorem crew (ledger : Ledger log phases s) (workers : Nat) :
    Ledger log (List.replicate workers .idle) s where
  keyed := ledger.keyed
  enlisted := ledger.enlisted
  whole := ledger.whole
  home := ledger.home
  attempts := ledger.attempts
  told := ledger.told
  backed phase member := by
    rw [List.eq_of_mem_replicate member]
    trivial
  apart := by simp [List.filterMap_replicate, Phase.held?]

theorem insertBatch (ledger : Ledger log phases s) (label createdBy : Bytes) (now : Instant) :
    Ledger log phases (s.insertBatch label createdBy now).2 where
  keyed := ⟨ledger.keyed.works, ledger.keyed.scans, ledger.keyed.diagnostics, ledger.keyed.literals⟩
  enlisted := ⟨ledger.enlisted.units, ledger.enlisted.digests, ledger.enlisted.jobs,
    ledger.enlisted.stages⟩
  whole := ledger.whole
  home := ledger.home
  attempts := ledger.attempts
  told j member ended := by
    obtain ⟨kept, ends, told⟩ := ledger.told j member ended
    exact ⟨kept, ends, told.congr rfl rfl⟩
  backed phase member :=
    (ledger.backed phase member).frame fun _ inside _ _ => ⟨inside, rfl, rfl⟩
  apart := ledger.apart

theorem contentsOf_next (ledger : Ledger log phases s) : s.contentsOf s.units.next = [] := by
  rw [Store.contentsOf, List.filter_eq_nil_iff]
  intro x member own
  obtain ⟨u, inside, same⟩ := Store.unit?_isSome_iff.1 (ledger.home x member)
  have below := ledger.enlisted.units.bounded u inside
  rw [same, beq_iff_eq.1 own] at below
  exact absurd below (Int.not_le.2 (Int.lt_succ _))

theorem enlist (ledger : Ledger log phases s) {u : Store.NewUnit}
    (new : s.unitByDigest? u.digest = none) (now : Instant) :
    Ledger log phases ((s.withUnit u).withWork s.units.next now) := by
  have account {j : Work} (member : j ∈ s.works.rows) :
      ((s.withUnit u).withWork s.units.next now).account j.unit = s.account j.unit :=
    congrArg (·, s.contentsOf j.unit)
      (Store.unit?_withUnit_of_isSome (Store.unit?_isSome_iff.2 (ledger.enlisted.exists_unit member)))
  constructor
  · exact ⟨ledger.keyed.works.push rfl, ledger.keyed.scans, ledger.keyed.diagnostics,
      ledger.keyed.literals⟩
  · exact ledger.enlisted.withUnit new now
  · exact ledger.whole
  · intro x member
    have there := ledger.home x member
    rwa [← Store.unit?_withUnit_of_isSome (u := u) there] at there
  · intro j member
    rcases List.mem_append.1 member with before | last
    · exact ledger.attempts j before
    · rw [List.mem_singleton.1 last]
      exact (congrArg (fun l : List ScanContent => (l.length : Int)) ledger.contentsOf_next).le
  · intro j member ended
    rcases List.mem_append.1 member with before | last
    · obtain ⟨kept, ends, told⟩ := ledger.told j before ended
      exact ⟨kept, ends, told.congr rfl (account before)⟩
    · rw [List.mem_singleton.1 last] at ended
      cases ended
  · intro phase member
    refine (ledger.backed phase member).frame fun job inside _ _ => ?_
    exact ⟨List.mem_append_left _ inside, account inside, rfl⟩
  · exact ledger.apart

theorem resetFailed (ledger : Ledger log phases s) (now : Instant) :
    Ledger log phases (s.resetFailed scanStage now).2 := by
  have id (j : Work) :
      (if Store.isFailed scanStage j then Store.requeued now.text j else j).id = j.id := by
    split_ifs <;> rfl
  constructor
  · exact ⟨ledger.keyed.works.map id, ledger.keyed.scans, ledger.keyed.diagnostics,
      ledger.keyed.literals⟩
  · exact ledger.enlisted.of_works rfl rfl fun j => by split_ifs <;> exact ⟨rfl, rfl⟩
  · exact ledger.whole
  · exact ledger.home
  · intro j member
    obtain ⟨before, inside, rfl⟩ := List.mem_map.1 member
    have attempts := ledger.attempts before inside
    split_ifs
    · exact attempts
    · exact attempts
  · intro j member ended
    obtain ⟨before, inside, rfl⟩ := List.mem_map.1 member
    split_ifs at ended ⊢ with failed
    · cases ended
    · obtain ⟨kept, ends, told⟩ := ledger.told before inside ended
      exact ⟨kept, ends, told.congr rfl rfl⟩
  · intro phase member
    refine (ledger.backed phase member).frame fun job inside _ running => ⟨?_, rfl, rfl⟩
    have sound : ¬ Store.isFailed scanStage job := by
      rw [Store.isFailed_iff, running]
      simp
    exact List.mem_map.2 ⟨job, inside, if_neg sound⟩
  · exact ledger.apart

theorem updateWork (ledger : Ledger log phases s) (member : j ∈ s.works.rows) {f : Work → Work}
    (id : ∀ j, (f j).id = j.id) (keeps : ∀ j, (f j).unit = j.unit ∧ (f j).stage = j.stage)
    (attempt : j.attempt ≤ (f j).attempt)
    (told : (f j).ended → ∃ kept, (f j).EndsWith kept ∧ Attempt.Told log s j.id j.unit kept)
    {later : List Phase}
    (backed : ∀ phase ∈ later, phase.Backed log (s.updateWork j.id f))
    (apart : (later.filterMap Phase.held?).Nodup) : Ledger log later (s.updateWork j.id f) := by
  have numbered := ledger.keyed.works
  constructor
  · exact ledger.keyed.updateWork j.id id
  · exact ledger.enlisted.updateWork j.id keeps
  · exact ledger.whole
  · exact ledger.home
  · intro row inside
    rcases (Store.mem_updateWork numbered member).1 inside with rfl | ⟨before, _⟩
    · rw [(keeps j).1]
      exact (ledger.attempts j member).trans attempt
    · exact ledger.attempts row before
  · intro row inside ended
    rcases (Store.mem_updateWork numbered member).1 inside with rfl | ⟨before, _⟩
    · obtain ⟨kept, ends, told⟩ := told ended
      rw [id, (keeps j).1]
      exact ⟨kept, ends, told.congr rfl rfl⟩
    · obtain ⟨kept, ends, told⟩ := ledger.told row before ended
      exact ⟨kept, ends, told.congr rfl rfl⟩
  · exact backed
  · exact apart

theorem backed_updateWork (ledger : Ledger log phases s) (member : j ∈ s.works.rows)
    {f : Work → Work} {phase : Phase} (backed : phase.Backed log s)
    (apart : phase.held? ≠ some j.id) : phase.Backed log (s.updateWork j.id f) := by
  refine backed.frame fun job inside held _ => ⟨?_, rfl, rfl⟩
  refine (Store.mem_updateWork ledger.keyed.works member).2 (.inr ⟨inside, ?_⟩)
  intro same
  exact apart (held.trans (congrArg some same))

theorem perm_held (front : List Phase) (phase : Phase) (back : List Phase) :
    ((front ++ phase :: back).filterMap Phase.held?).Perm
      (phase.held?.toList ++ (front ++ back).filterMap Phase.held?) := by
  refine (List.perm_middle.filterMap _).trans ?_
  cases held : phase.held? <;> simp [held]

theorem rest (ledger : Ledger log (front ++ .idle :: back) s) :
    Ledger log (front ++ .done :: back) s where
  keyed := ledger.keyed
  enlisted := ledger.enlisted
  whole := ledger.whole
  home := ledger.home
  attempts := ledger.attempts
  told := ledger.told
  backed := forall_mem_middle.2 ⟨trivial, (forall_mem_middle.1 ledger.backed).2⟩
  apart := by simpa [List.filterMap_cons, Phase.held?] using ledger.apart

theorem claim (ledger : Ledger log (front ++ .idle :: back) s) (waiting : j ∈ s.queuedJobs)
    (worker : Bytes) (now : Stamp) :
    Ledger log (front ++ .claimed (Store.claimed worker now j) :: back)
      (s.updateWork j.id (Store.claimed worker now)) := by
  obtain ⟨member, waits⟩ := List.mem_filter.1 waiting
  have numbered := ledger.keyed.works
  have others := (forall_mem_middle.1 ledger.backed).2
  -- What other workers hold runs, and this job waited.
  have free : ∀ phase ∈ front ++ back, phase.held? ≠ some j.id := by
    intro phase inside held
    obtain ⟨job, held, id, running⟩ := (others phase inside).exists_running held
    obtain rfl := numbered.eq_of_id held member id
    rw [(Work.waits_iff.1 waits).2] at running
    cases running
  have more : j.attempt ≤ (Store.claimed worker now j).attempt := Int.le_add_one (Int.le_refl _)
  refine ledger.updateWork (f := Store.claimed worker now) member (fun _ => rfl)
    (fun _ => ⟨rfl, rfl⟩) more ?_ ?_ ?_
  · intro ended
    simp at ended
  · refine forall_mem_middle.2 ⟨⟨⟨?_, rfl⟩, ?_⟩, ?_⟩
    · exact (Store.mem_updateWork numbered member).2 (.inl rfl)
    · exact Int.lt_add_one_of_le (ledger.attempts j member)
    · intro phase inside
      exact ledger.backed_updateWork member (others phase inside) (free phase inside)
  · rw [(perm_held front _ back).nodup_iff]
    refine List.nodup_cons.2 ⟨?_, ((perm_held front .idle back).nodup_iff.1 ledger.apart)⟩
    intro held
    obtain ⟨phase, inside, same⟩ := List.mem_filterMap.1 held
    exact free phase inside same

theorem held_ne (ledger : Ledger log (front ++ phase :: back) s) {id : RowId}
    (own : phase.held? = some id) : ∀ other ∈ front ++ back, other.held? ≠ some id := by
  intro other inside same
  have nodup := (perm_held front phase back).nodup_iff.1 ledger.apart
  rw [own] at nodup
  exact (List.nodup_cons.1 nodup).1 (List.mem_filterMap.2 ⟨other, inside, same⟩)

theorem perform (ledger : Ledger log (front ++ .claimed j :: back) s) {a : Attempt}
    (own : a.job = j.id) (at₀ : a.workspace.link.store = s) {now : Instant}
    {outcome : Workspace.JobOutcome}
    (performs : Workspace.Performs s after (a.reading j.unit) now outcome) :
    Ledger (log ++ [a]) (front ++ .performed j outcome :: back) after := by
  obtain ⟨⟨⟨member, running⟩, fewer⟩, others⟩ := forall_mem_middle.1 ledger.backed
  have free := ledger.held_ne rfl
  have unit (id : RowId) : after.unit? id = s.unit? id := by
    rw [Store.unit?, performs.units, ← Store.unit?]
  have new : ∀ x ∈ ((a.reading j.unit).content now).toList, x.scan.unit = j.unit ∧ x.Whole :=
    fun x stored => Attempt.content_reading (Option.mem_toList.1 stored)
  -- Another job has another unit.
  have account {k : Work} (inside : k ∈ s.works.rows) (other : k.id ≠ j.id) :
      after.account k.unit = s.account k.unit :=
    Attempt.account_performs performs fun same =>
      other (congrArg Work.id (ledger.enlisted.eq_of_unit inside member same))
  have last {k : Work} (other : k.id ≠ j.id) :
      Attempt.last? (log ++ [a]) k.id = Attempt.last? log k.id :=
    Attempt.last?_concat_other log (own ▸ other.symm)
  constructor
  · exact performs.keyed
  · exact ledger.enlisted.of_works performs.units (f := id) (by simp [performs.works])
      fun _ => ⟨rfl, rfl⟩
  · rw [performs.contents]
    intro x stored
    rcases List.mem_append.1 stored with before | later
    · exact ledger.whole x before
    · exact (new x later).2
  · rw [performs.contents]
    intro x stored
    rw [unit]
    rcases List.mem_append.1 stored with before | later
    · exact ledger.home x before
    · rw [(new x later).1]
      exact Store.unit?_isSome_iff.2 (ledger.enlisted.exists_unit member)
  · rw [performs.works]
    intro k inside
    by_cases same : k.id = j.id
    · obtain rfl := ledger.keyed.works.eq_of_id inside member same
      have one := Attempt.length_contentsOf_performs performs
      omega
    · rw [show after.contentsOf k.unit = s.contentsOf k.unit from
        congrArg Prod.snd (account inside same)]
      exact ledger.attempts k inside
  · rw [performs.works]
    intro k inside ended
    have other : k.id ≠ j.id := by
      intro same
      obtain rfl := ledger.keyed.works.eq_of_id inside member same
      simp [Work.ended, running] at ended
    obtain ⟨kept, ends, told⟩ := ledger.told k inside ended
    exact ⟨kept, ends, told.congr (last other) (account inside other)⟩
  · have told := own ▸ Attempt.last?_concat_self log a
    refine forall_mem_middle.2 ⟨⟨⟨performs.works ▸ member, running⟩, a, told,
      Attempt.tells_performs performs at₀⟩, ?_⟩
    intro phase inside
    refine (others phase inside).frame fun k stored held _ => ?_
    have other : k.id ≠ j.id := fun same => free phase inside (held.trans (congrArg some same))
    exact ⟨performs.works ▸ stored, account stored other, last other⟩
  · have nodup := (perm_held front _ back).nodup_iff.1 ledger.apart
    exact (perm_held front _ back).nodup_iff.2 nodup

theorem conclude {outcome : Workspace.JobOutcome}
    (ledger : Ledger log (front ++ .performed j outcome :: back) s) (now : Stamp) :
    Ledger log (front ++ .idle :: back) (s.updateWork j.id
      (Store.concluded (outcome.failure.map Workspace.JobFailure.kept) now)) := by
  obtain ⟨⟨⟨member, running⟩, told⟩, others⟩ := forall_mem_middle.1 ledger.backed
  have free := ledger.held_ne rfl
  refine ledger.updateWork member (fun _ => Store.id_concluded ..) ?_ ?_ ?_ ?_ ?_
  · intro j
    cases outcome.failure <;> exact ⟨rfl, rfl⟩
  · cases outcome.failure <;> exact Int.le_refl _
  · intro _
    exact ⟨_, ⟨now, j, rfl⟩, told⟩
  · refine forall_mem_middle.2 ⟨trivial, fun phase inside => ?_⟩
    exact ledger.backed_updateWork member (others phase inside) (free phase inside)
  · have nodup := (perm_held front _ back).nodup_iff.1 ledger.apart
    exact (perm_held front .idle back).nodup_iff.2 (List.nodup_cons.1 nodup).2

end Ledger

def Crew.attempts (duty : Duty) (c : Crew) (t : Turn) : List Attempt :=
  match c.phases[t.worker]? with
  | some (.claimed job) => [⟨job.id, duty.settings, c.workspace⟩]
  | _ => []

theorem Ledger.turn {log : List Attempt} {c next : Crew} {duty : Duty} {t : Turn}
    (ledger : Ledger log c.phases c.store) (steady : c.workspace.link.Steady)
    (stepped : c.step duty t = some next) :
    next.workspace = c.workspace.backedBy next.store ∧
      Ledger (log ++ c.attempts duty t) next.phases next.store := by
  obtain ⟨phase, front, back, found, place, set⟩ := Crew.exists_phase stepped
  rw [Crew.step, found] at stepped
  rw [Crew.attempts, found]
  rw [place] at ledger
  -- Only a worker that performs its job makes an attempt.
  cases phase with
  | idle =>
      simp only [List.append_nil]
      rcases c.workspace.claim_cases scanStage duty.worker t.now with ⟨e, refused⟩ | claimed
      · simp only [refused] at stepped
        cases stepped
        simp only [Crew.move, set]
        exact ⟨rfl, ledger.rest⟩
      · simp only [claimed, Store.claimWork] at stepped
        cases next : c.workspace.link.store.nextWork? scanStage t.now.text with
        | none =>
            rw [next] at stepped
            cases stepped
            simp only [Crew.move, set]
            exact ⟨rfl, ledger.rest⟩
        | some j =>
            have waiting := Store.mem_queuedJobs_of_nextWork? next
            rw [next] at stepped
            cases stepped
            simp only [Crew.move, set]
            exact ⟨rfl, ledger.claim waiting duty.worker t.now.text⟩
  | claimed j =>
      obtain ⟨outcome, after, performed, performs⟩ :=
        Workspace.performs_eq steady ledger.keyed duty.settings t.now j
      simp only [performed] at stepped
      cases stepped
      simp only [Crew.move, set]
      exact ⟨rfl, ledger.perform rfl rfl performs⟩
  | performed j outcome =>
      obtain ⟨⟨⟨member, running⟩, _⟩, _⟩ := forall_mem_middle.1 ledger.backed
      have concluded := Workspace.conclude_eq steady member running outcome.failure t.now
      simp only [concluded] at stepped
      cases stepped
      simp only [Crew.move, set, List.append_nil]
      exact ⟨rfl, ledger.conclude t.now.text⟩
  | done => cases stepped

end AsnLexis
