import AsnLexis.Pipeline.Drain
import AsnLexis.Proofs.Copies
import Mathlib

/-! Files that are taken in are kept by their content. Each content has one unit, one job and one
copy, whatever the names it comes under, and its copy is never written over. -/

namespace AsnLexis

theorem exists_of_forall₂ {α β : Type} {R : α → β → Prop} {as : List α} {bs : List β}
    (related : List.Forall₂ R as bs) :
    (∀ a ∈ as, ∃ b ∈ bs, R a b) ∧ ∀ b ∈ bs, ∃ a ∈ as, R a b := by
  induction related with
  | nil => simp
  | cons first _ ih =>
      simp only [List.mem_cons, exists_eq_or_imp, forall_eq_or_imp]
      exact ⟨⟨.inl first, fun a member => .inr (ih.1 a member)⟩, .inl first,
        fun b member => .inr (ih.2 b member)⟩

structure Intake where
  upload : Upload
  result : Ingested
  deriving DecidableEq, Repr

namespace Intake

def content (i : Intake) : Bytes := i.upload.content

def known (upload : Upload) (unit : RowId) : Intake :=
  ⟨upload, ⟨unit, 0, Digest.hex upload.content, true⟩⟩

def new (upload : Upload) (unit work : RowId) : Intake :=
  ⟨upload, ⟨unit, work, Digest.hex upload.content, false⟩⟩

def fresh (past : List Intake) : List Intake := past.filter (!·.result.duplicate)

def distinct (past : List Intake) : Nat := (past.map content).dedup.length

/-- Digests of different contents differ in the digits that copies are named by. -/
def Apart (past : List Intake) : Prop :=
  ∀ a ∈ past, ∀ b ∈ past,
    (Digest.hex a.content).take 16 = (Digest.hex b.content).take 16 → a.content = b.content

structure Recognized (before : List Intake) (i : Intake) : Prop where
  duplicate : i.result.duplicate = true ↔ ∃ e ∈ before, e.content = i.content
  digest : i.result.digest = Digest.hex i.content
  earlier : ∀ e ∈ before, e.content = i.content →
    i.result = ⟨e.result.unit, 0, Digest.hex i.content, true⟩

structure Queues (i : Intake) (j : Work) : Prop where
  work : j.id = i.result.work
  unit : j.unit = i.result.unit
  stage : j.stage = scanStage
  queued : j.status = .queued

variable {past : List Intake} {i : Intake}

theorem fresh_known (past : List Intake) (upload : Upload) (unit : RowId) :
    fresh (past ++ [known upload unit]) = fresh past := by
  simp [fresh, known]

theorem fresh_new (past : List Intake) (upload : Upload) (unit work : RowId) :
    fresh (past ++ [new upload unit work]) = fresh past ++ [new upload unit work] := by
  simp [fresh, new]

theorem mem_of_mem_fresh (member : i ∈ fresh past) : i ∈ past := List.mem_of_mem_filter member

theorem Apart.front {rest : List Intake} (apart : Apart (past ++ rest)) : Apart past :=
  fun a first b second => apart a (List.mem_append_left rest first) b
    (List.mem_append_left rest second)

theorem Apart.last {e : Intake} (apart : Apart (past ++ [i])) (member : e ∈ past)
    (same : (Digest.hex e.content).take 16 = (Digest.hex i.content).take 16) :
    e.content = i.content :=
  apart e (List.mem_append_left _ member) i (List.mem_append_right _ (List.mem_singleton_self i)) same

theorem forall_split_concat {P : List Intake → Intake → Prop}
    (each : ∀ before e rest, past = before ++ e :: rest → P before e) (last : P past i) :
    ∀ before e rest, past ++ [i] = before ++ e :: rest → P before e := by
  intro before e rest split
  rcases rest.eq_nil_or_concat' with rfl | ⟨front, other, rfl⟩
  · obtain ⟨rfl, same⟩ := List.append_inj' split rfl
    exact List.singleton_inj.1 same ▸ last
  · rw [← List.cons_append, ← List.append_assoc] at split
    exact each before e front (List.append_inj' split rfl).1

end Intake

namespace Workspace

open Intake

/-- Batches are opened and files are taken in, one after the other, and nothing fails. -/
inductive Takes (w : Workspace) : List Intake → Workspace → Prop
  | nil : Takes w [] w
  | opened {past : List Intake} {middle after : Workspace} {label createdBy : Bytes} {now : Instant}
      {batch : RowId} (takes : Takes w past middle)
      (opened : middle.onStore (·.insertBatch label createdBy now) = (.ok batch, after)) :
      Takes w past after
  | file {past : List Intake} {middle after : Workspace} {now : Instant} {batch : RowId}
      {upload : Upload} {result : Ingested} (takes : Takes w past middle)
      (taken : middle.ingestFile now batch upload = (.ok result, after)) :
      Takes w (past ++ [⟨upload, result⟩]) after

variable {w middle after : Workspace} {past : List Intake}

theorem Takes.all {now : Instant} {batch : RowId} {uploads : List Upload} {results : List Ingested}
    (takes : w.Takes past middle)
    (taken : middle.ingestAll now batch uploads = ((results, none), after)) :
    results.length = uploads.length ∧
      w.Takes (past ++ List.zipWith Intake.mk uploads results) after := by
  induction uploads generalizing past middle results with
  | nil =>
      cases taken
      exact ⟨rfl, by simpa using takes⟩
  | cons upload rest ih =>
      rw [ingestAll] at taken
      rcases first : middle.ingestFile now batch upload with ⟨outcome, next⟩
      rw [first] at taken
      cases outcome with
      | error e => cases taken
      | ok result =>
          rcases later : next.ingestAll now batch rest with ⟨⟨others, failure⟩, last⟩
          simp only [later] at taken
          cases taken
          obtain ⟨long, whole⟩ := ih (takes.file first) later
          exact ⟨congrArg (· + 1) long, by simpa using whole⟩

theorem Takes.batch {now : Instant} {label createdBy : Bytes} {uploads : List Upload}
    {outcome : BatchOutcome} (takes : w.Takes past middle)
    (taken : middle.ingestBatch now label createdBy uploads = (outcome, after))
    (whole : outcome.failure = none) :
    outcome.results.length = uploads.length ∧
      w.Takes (past ++ List.zipWith Intake.mk uploads outcome.results) after := by
  rw [ingestBatch] at taken
  rcases opened : middle.onStore (·.insertBatch label createdBy now) with ⟨answer, next⟩
  rw [opened] at taken
  cases answer with
  | error e =>
      cases taken
      cases whole
  | ok batch =>
      rcases all : next.ingestAll now batch uploads with ⟨⟨results, failure⟩, last⟩
      simp only [all] at taken
      cases taken
      obtain rfl : failure = none := whole
      exact (takes.opened opened).all all

structure Shelves (w : Workspace) (i : Intake) (u : SourceUnit) : Prop where
  unit : u.id = i.result.unit
  digest : u.digest = Digest.hex i.content
  size : u.size = i.content.length
  copy : w.files.Holds (w.placeOf u.path) i.content
  path : ∃ batch name, u.path = Upload.storedPath batch (Digest.hex i.content) name

theorem Shelves.backedBy {i : Intake} {u : SourceUnit} (shelves : w.Shelves i u) (s : Store) :
    (w.backedBy s).Shelves i u :=
  ⟨shelves.unit, shelves.digest, shelves.size, shelves.copy, shelves.path⟩

theorem Shelves.keepCopy {kept : Workspace} {i : Intake} {u : SourceUnit} {batch : RowId}
    {name other : Bytes} (shelves : w.Shelves i u)
    (copied : w.keepCopy (Upload.storedPath batch (Digest.hex other) name) other = (.ok (), kept))
    (apart : (Digest.hex i.content).take 16 ≠ (Digest.hex other).take 16) (s : Store) :
    (kept.backedBy s).Shelves i u := by
  obtain ⟨home, own, path⟩ := shelves.path
  obtain ⟨cleaned, first⟩ := w.placeOf_storedPath home i.content own
  obtain ⟨-, second⟩ := w.placeOf_storedPath batch other name
  rw [← path] at cleaned first
  have holds := holds_keepCopy_other copied shelves.copy cleaned first
    (Upload.ordinary_storedName i.content own) second (Upload.ordinary_storedName other name)
    fun same => apart (Upload.take_of_storedName_eq same)
  exact ⟨shelves.unit, shelves.digest, shelves.size, holds, shelves.path⟩

/-- What is true of a workspace in which files were taken in and nothing else was done. -/
structure Stocked (past : List Intake) (w : Workspace) : Prop where
  units : List.Forall₂ w.Shelves (fresh past) w.link.store.units.rows
  works : List.Forall₂ Queues (fresh past) w.link.store.works.rows
  contents : ((fresh past).map content).Nodup
  firsts : ∀ e ∈ past, ∃ f ∈ fresh past, f.content = e.content ∧ f.result.unit = e.result.unit
  recognized : ∀ before i rest, past = before ++ i :: rest → Recognized before i

theorem stocked_nil (empty : w.link.store = {}) : Stocked [] w := by
  constructor
  · rw [empty]
    exact .nil
  · rw [empty]
    exact .nil
  · exact List.nodup_nil
  · simp
  · simp

namespace Stocked

theorem find (stocked : Stocked past w) {e : Intake} (member : e ∈ past) :
    w.link.store.unitByDigest? (Digest.hex e.content) ≠ none := by
  obtain ⟨f, fresh, same, -⟩ := stocked.firsts e member
  obtain ⟨u, inside, shelves⟩ := (exists_of_forall₂ stocked.units).1 f fresh
  intro absent
  have miss := List.find?_eq_none.1 absent u inside
  rw [shelves.digest, same] at miss
  simp at miss

theorem unit_eq (stocked : Stocked past w) (apart : Apart past) {e : Intake} (member : e ∈ past)
    {u : SourceUnit} (found : w.link.store.unitByDigest? (Digest.hex e.content) = some u) :
    u.id = e.result.unit := by
  obtain ⟨g, own, content, unit⟩ := stocked.firsts e member
  obtain ⟨f, other, shelves⟩ := (exists_of_forall₂ stocked.units).2 u (List.mem_of_find?_eq_some found)
  have digest : Digest.hex f.content = Digest.hex e.content := by
    rw [← shelves.digest]
    simpa using List.find?_some found
  have same : f.content = g.content :=
    (apart f (mem_of_mem_fresh other) e member (by rw [digest])).trans content.symm
  obtain rfl := List.inj_on_of_nodup_map stocked.contents other own same
  exact shelves.unit.trans unit

theorem opened {label createdBy : Bytes} {now : Instant} {batch : RowId} (stocked : Stocked past w)
    (opened : w.onStore (·.insertBatch label createdBy now) = (.ok batch, after)) :
    Stocked past after := by
  rcases w.openBatch_cases label createdBy now with ⟨e, refused⟩ | made
  · rw [refused] at opened
    cases opened
  · rw [made] at opened
    cases opened
    have units := stocked.units.imp fun i u shelves =>
      shelves.backedBy (w.link.store.insertBatch label createdBy now).2
    exact ⟨units, stocked.works, stocked.contents, stocked.firsts, stocked.recognized⟩

theorem duplicate {upload : Upload} {u : SourceUnit} (stocked : Stocked past w)
    (found : w.link.store.unitByDigest? (Digest.hex upload.content) = some u)
    (apart : Apart (past ++ [known upload u.id])) : Stocked (past ++ [known upload u.id]) w := by
  obtain ⟨f, inside, shelves⟩ :=
    (exists_of_forall₂ stocked.units).2 u (List.mem_of_find?_eq_some found)
  have member := mem_of_mem_fresh inside
  have digest : Digest.hex f.content = Digest.hex upload.content := by
    rw [← shelves.digest]
    simpa using List.find?_some found
  have content : f.content = upload.content := apart.last member (congrArg (List.take 16) digest)
  constructor
  · rw [fresh_known]
    exact stocked.units
  · rw [fresh_known]
    exact stocked.works
  · rw [fresh_known]
    exact stocked.contents
  · rw [fresh_known]
    intro e either
    rcases List.mem_append.1 either with old | last
    · exact stocked.firsts e old
    · rw [List.mem_singleton.1 last]
      exact ⟨f, inside, content, shelves.unit.symm⟩
  · refine forall_split_concat stocked.recognized ⟨?_, rfl, ?_⟩
    · exact iff_of_true rfl ⟨f, member, content⟩
    · intro e old same
      have same : e.content = upload.content := same
      rw [← stocked.unit_eq apart.front old (same ▸ found)]
      rfl

theorem taken {kept : Workspace} {now : Instant} {batch : RowId} {upload : Upload}
    (stocked : Stocked past w)
    (absent : w.link.store.unitByDigest? (Digest.hex upload.content) = none)
    (copied : w.keepCopy (Upload.storedPath batch (Digest.hex upload.content) upload.name)
      upload.content = (.ok (), kept))
    (apart : Apart (past ++ [new upload w.link.store.units.next w.link.store.works.next])) :
    Stocked (past ++ [new upload w.link.store.units.next w.link.store.works.next])
      (kept.backedBy ((w.link.store.withUnit (newUnit now batch upload)).withWork
        w.link.store.units.next now)) := by
  -- The content was not seen, so its copy has a name of its own and goes over no other.
  have unseen : ∀ e ∈ past, e.content ≠ upload.content := fun e member same =>
    stocked.find member (same ▸ absent)
  have digits : ∀ f ∈ fresh past, (Digest.hex f.content).take 16
      ≠ (Digest.hex upload.content).take 16 := fun f inside same =>
    unseen f (mem_of_mem_fresh inside) (apart.last (mem_of_mem_fresh inside) same)
  constructor
  · rw [fresh_new]
    have old := ((List.forall₂_and_left _ _).2 ⟨digits, stocked.units⟩).imp fun f u both =>
      both.2.keepCopy copied both.1 ((w.link.store.withUnit (newUnit now batch upload)).withWork
        w.link.store.units.next now)
    have own : kept.Shelves (new upload w.link.store.units.next w.link.store.works.next)
        (Store.unitRow (newUnit now batch upload) w.link.store.units.next) :=
      ⟨rfl, rfl, rfl, holds_keepCopy copied, batch, upload.name, rfl⟩
    exact List.rel_append old (.cons (own.backedBy _) .nil)
  · rw [fresh_new]
    exact List.rel_append stocked.works (.cons ⟨rfl, rfl, rfl, rfl⟩ .nil)
  · rw [fresh_new, List.map_append, List.nodup_append]
    refine ⟨stocked.contents, List.nodup_singleton _, ?_⟩
    intro c inside d last same
    obtain ⟨f, own, rfl⟩ := List.mem_map.1 inside
    exact unseen f (mem_of_mem_fresh own) (same.trans (List.mem_singleton.1 last))
  · rw [fresh_new]
    intro e either
    rcases List.mem_append.1 either with old | last
    · obtain ⟨f, inside, same⟩ := stocked.firsts e old
      exact ⟨f, List.mem_append_left _ inside, same⟩
    · rw [List.mem_singleton.1 last]
      exact ⟨_, List.mem_append_right _ (List.mem_singleton_self _), rfl, rfl⟩
  · refine forall_split_concat stocked.recognized ⟨?_, rfl, ?_⟩
    · exact iff_of_false Bool.false_ne_true fun ⟨e, old, same⟩ => unseen e old same
    · exact fun e old same => absurd same (unseen e old)

theorem length_fresh (stocked : Stocked past w) : (fresh past).length = distinct past := by
  -- Both lists have every content once.
  have same : (past.map content).dedup.Perm ((fresh past).map content) := by
    refine (List.perm_ext_iff_of_nodup (List.nodup_dedup _) stocked.contents).2 fun c => ?_
    rw [List.mem_dedup, List.mem_map, List.mem_map]
    constructor
    · rintro ⟨e, member, rfl⟩
      obtain ⟨f, inside, content, -⟩ := stocked.firsts e member
      exact ⟨f, inside, content⟩
    · rintro ⟨f, inside, rfl⟩
      exact ⟨f, mem_of_mem_fresh inside, rfl⟩
  rw [distinct, same.length_eq, List.length_map]

end Stocked

theorem Takes.stocked (empty : w.link.store = {}) (takes : w.Takes past after) (apart : Apart past) :
    Stocked past after := by
  induction takes with
  | nil => exact stocked_nil empty
  | opened _ opened ih => exact (ih apart).opened opened
  | @file past middle after now batch upload result _ taken ih =>
      have stocked := ih apart.front
      have ingests := ingests_ingestFile middle now batch upload
      rw [taken] at ingests
      -- Only two of the four outcomes do not fail.
      cases ingests with
      | duplicate found => exact stocked.duplicate found apart
      | taken absent _ copied => exact stocked.taken absent copied apart

structure Keeps (w : Workspace) (i : Intake) (u : SourceUnit) : Prop where
  unit : u.id = i.result.unit
  digest : u.digest = Digest.hex i.content
  size : u.size = i.content.length
  copy : w.files.read (w.placeOf u.path) = .ok i.content
  scan : ∀ settings now, w.scanUnit settings now u
    = match settings.tokenize u.name i.content with
      | .error e => (⟨none, some e, []⟩, w)
      | .ok r => w.storeScan u r now

theorem Shelves.keeps {i : Intake} {u : SourceUnit} (shelves : w.Shelves i u) : w.Keeps i u where
  unit := shelves.unit
  digest := shelves.digest
  size := shelves.size
  copy := Files.read_of_holds shelves.copy
  scan settings now := by
    have read := Files.read_of_holds shelves.copy
    cases tokenized : settings.tokenize u.name i.content with
    | error e => simp only [scanUnit, read, tokenized]
    | ok r => simp only [scanUnit, read, tokenized]

structure Addressed (past : List Intake) (w : Workspace) : Prop where
  recognized : ∀ before i rest, past = before ++ i :: rest → Recognized before i
  again : ∀ e ∈ past, ∀ now batch name result after,
    w.ingestFile now batch ⟨name, e.content⟩ = (.ok result, after) →
      result = ⟨e.result.unit, 0, Digest.hex e.content, true⟩ ∧ after = w
  units : List.Forall₂ w.Keeps (fresh past) w.link.store.units.rows
  jobs : List.Forall₂ Queues (fresh past) w.link.store.works.rows
  size : w.link.store.units.size = distinct past
  queued : w.queued scanStage = distinct past

theorem Stocked.addressed (stocked : Stocked past w) (apart : Apart past) : Addressed past w where
  recognized := stocked.recognized
  again e member now batch name result after taken := by
    have ingests := ingests_ingestFile w now batch ⟨name, e.content⟩
    rw [taken] at ingests
    cases ingests with
    | duplicate found => exact ⟨by rw [stocked.unit_eq apart member found], rfl⟩
    | taken absent => exact absurd absent (stocked.find member)
  units := stocked.units.imp fun _ _ shelves => shelves.keeps
  jobs := stocked.works
  size := stocked.units.length_eq.symm.trans stocked.length_fresh
  queued := by
    have all : ∀ j ∈ w.link.store.works.rows, (j.stage == scanStage && j.status == .queued) = true := by
      intro j member
      obtain ⟨i, -, queues⟩ := (exists_of_forall₂ stocked.works).2 j member
      simp [queues.stage, queues.queued]
    rw [Workspace.queued, List.filter_eq_self.2 all, ← stocked.works.length_eq, stocked.length_fresh]

/-- Files that are taken in with nothing failing are kept by their content, as long as the digests of
different contents begin differently. Whole batches are taken in file by file. -/
theorem ingest_content_addressed {w : Workspace} (empty : w.link.store = {}) :
    (∀ past after, w.Takes past after → Apart past → Addressed past after) ∧
    ∀ past middle, w.Takes past middle → ∀ now label createdBy uploads outcome after,
      middle.ingestBatch now label createdBy uploads = (outcome, after) → outcome.failure = none →
        outcome.results.length = uploads.length ∧
          w.Takes (past ++ List.zipWith Intake.mk uploads outcome.results) after := by
  constructor
  · exact fun past after takes apart => (takes.stocked empty apart).addressed apart
  · intro past middle takes now label createdBy uploads outcome after taken whole
    exact takes.batch taken whole

/-- A content comes again in another batch and under another name. -/
theorem ingest_content_addressed_two_batches :
    let w : Workspace := ⟨{}, .inMemory, utf8 "/data"⟩
    let uploads : List Upload := [⟨utf8 "a.asn", utf8 "A"⟩, ⟨utf8 "b", utf8 "B"⟩]
    let others : List Upload := [⟨utf8 "old/c.txt", utf8 "A"⟩]
    let first := w.ingestBatch .zero [] [] uploads
    let second := first.2.ingestBatch .zero [] [] others
    let past := List.zipWith Intake.mk uploads first.1.results
      ++ List.zipWith Intake.mk others second.1.results
    past.map (·.result.duplicate) = [false, false, true] ∧ w.Takes past second.2 ∧
      Addressed past second.2 := by
  intro w uploads others first second past
  obtain ⟨addressed, whole⟩ := ingest_content_addressed (w := w) rfl
  obtain ⟨done, doneToo, contents, flags⟩ : first.1.failure.isNone ∧ second.1.failure.isNone ∧
      past.map content = [utf8 "A", utf8 "B", utf8 "A"] ∧
      past.map (·.result.duplicate) = [false, false, true] := by decide +kernel
  have started := (whole [] w .nil .zero [] [] uploads first.1 first.2 rfl
    (Option.isNone_iff_eq_none.1 done)).2
  have takes := (whole _ _ started .zero [] [] others second.1 second.2 rfl
    (Option.isNone_iff_eq_none.1 doneToo)).2
  have differ : (Digest.hex (utf8 "A")).take 16 ≠ (Digest.hex (utf8 "B")).take 16 := by
    decide +kernel
  have apart : Apart past := by
    intro a inside b insideToo same
    have either : ∀ i ∈ past, i.content = utf8 "A" ∨ i.content = utf8 "B" := fun i member => by
      have member := List.mem_map_of_mem (f := content) member
      simpa [contents, or_comm] using member
    rcases either a inside with left | left <;> rcases either b insideToo with right | right
    · exact left.trans right.symm
    · rw [left, right] at same
      exact absurd same differ
    · rw [left, right] at same
      exact absurd same.symm differ
    · exact left.trans right.symm
  exact ⟨flags, takes, addressed past second.2 takes apart⟩

end Workspace

end AsnLexis
