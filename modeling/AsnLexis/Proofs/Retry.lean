import AsnLexis.Proofs.Ingest
import Mathlib

/-! Files whose taking in failed and is tried again. Of all that can fail one step matters: when the
unit is stored and its job cannot be queued, the unit stays without a job, and the content passes for
a duplicate ever after. -/

namespace AsnLexis

namespace Store

variable {s : Store}

def Served (s : Store) (unit : RowId) : Prop :=
  ∃ j ∈ s.works.rows, j.unit = unit ∧ j.stage = scanStage

def Covered (s : Store) : Prop := ∀ u ∈ s.units.rows, s.Served u.id

/-- Units have ids of their own, and jobs are for units that are there. -/
structure Anchored (s : Store) : Prop where
  units : s.units.Numbered SourceUnit.id
  jobs : ∀ j ∈ s.works.rows, ∃ u ∈ s.units.rows, u.id = j.unit

theorem mem_of_unitByDigest? {digest : Bytes} {u : SourceUnit}
    (found : s.unitByDigest? digest = some u) : u ∈ s.units.rows ∧ u.digest = digest :=
  ⟨List.mem_of_find?_eq_some found, by simpa using List.find?_some found⟩

theorem unitByDigest?_withUnit {u : NewUnit} (new : s.unitByDigest? u.digest = none) :
    (s.withUnit u).unitByDigest? u.digest = some (unitRow u s.units.next) := by
  have earlier : s.units.rows.find? (·.digest == u.digest) = none := new
  rw [unitByDigest?, withUnit, Table.push, List.find?_append, earlier]
  simp [unitRow]

theorem Covered.withWork {u : NewUnit} (covered : s.Covered) (now : Instant) :
    ((s.withUnit u).withWork s.units.next now).Covered := by
  intro unit member
  rcases List.mem_append.1 member with before | last
  · obtain ⟨j, inside, own⟩ := covered unit before
    exact ⟨j, List.mem_append_left _ inside, own⟩
  · rw [List.mem_singleton.1 last]
    exact ⟨_, List.mem_append_right _ (List.mem_singleton_self _), rfl, rfl⟩

theorem Anchored.not_served (anchored : s.Anchored) (u : NewUnit) :
    ¬ (s.withUnit u).Served s.units.next := by
  rintro ⟨j, member, own, -⟩
  obtain ⟨unit, inside, same⟩ := anchored.jobs j member
  have below := anchored.units.bounded unit inside
  rw [same, own] at below
  exact absurd below (Int.not_le.2 (Int.lt_succ _))

end Store

namespace Workspace

variable {w : Workspace} {now : Instant} {batch : RowId} {upload : Upload} {result : Ingested}

theorem served_of_ok (covered : w.link.store.Covered)
    (ingested : (w.ingestFile now batch upload).1 = .ok result) :
    ∃ u, (w.ingestFile now batch upload).2.link.store.unitByDigest? (Digest.hex upload.content)
        = some u ∧ (w.ingestFile now batch upload).2.link.store.Served u.id := by
  have ingests := ingests_ingestFile w now batch upload
  generalize (w.ingestFile now batch upload).1 = outcome,
    (w.ingestFile now batch upload).2 = after at ingests ingested ⊢
  cases ingests with
  | refused => cases ingested
  | duplicate found => exact ⟨_, found, covered _ (Store.mem_of_unitByDigest? found).1⟩
  | stranded => cases ingested
  | taken new =>
      refine ⟨_, Store.unitByDigest?_withUnit (u := newUnit now batch upload) new, ?_⟩
      exact ⟨_, List.mem_append_right _ (List.mem_singleton_self _), rfl, rfl⟩

theorem ingestFile_known (now : Instant) (batch : RowId) {upload : Upload} {u : SourceUnit}
    (known : w.link.store.unitByDigest? (Digest.hex upload.content) = some u) :
    (w.ingestFile now batch upload).2.link.store = w.link.store ∧
      ∀ result, (w.ingestFile now batch upload).1 = .ok result →
        result = ⟨u.id, 0, Digest.hex upload.content, true⟩ := by
  have ingests := ingests_ingestFile w now batch upload
  generalize (w.ingestFile now batch upload).1 = outcome,
    (w.ingestFile now batch upload).2 = after at ingests ⊢
  cases ingests with
  | refused e files => exact ⟨rfl, fun result answered => by cases answered⟩
  | duplicate found =>
      obtain rfl := Option.some.inj (known.symm.trans found)
      exact ⟨rfl, fun result answered => (Except.ok.inj answered).symm⟩
  | stranded new => cases known.symm.trans new
  | taken new => cases known.symm.trans new

/-- The unit of a content is there without a job, and however the content is handed in again, it is a
duplicate and nothing changes. -/
def Strands (s : Store) (content : Bytes) : Prop :=
  ∃ u ∈ s.units.rows, u.digest = Digest.hex content ∧ ¬ s.Served u.id ∧
    ∀ (again : Workspace) (later : Instant) (batch : RowId) (name : Bytes),
      again.link.store = s →
        (again.ingestFile later batch ⟨name, content⟩).2.link.store = s ∧
        ∀ result, (again.ingestFile later batch ⟨name, content⟩).1 = .ok result →
          result = ⟨u.id, 0, Digest.hex content, true⟩

end Workspace

/-- Where every unit has a job, taking a file in leaves it so, failed or not, and when it is repeated
and does not fail the content has a job. The one exception is that just the job could not be
queued. -/
theorem ingest_retry {w : Workspace} (anchored : w.link.store.Anchored)
    (covered : w.link.store.Covered) (now : Instant) (batch : RowId) (upload : Upload) :
    let ingest := w.ingestFile now batch upload
    (ingest.2.link.store.Covered ∧
      ∀ (again : Workspace) (later : Instant) (batch : RowId) (name : Bytes) (result : Ingested),
        again.link.store = ingest.2.link.store →
        (again.ingestFile later batch ⟨name, upload.content⟩).1 = .ok result →
          ∃ u, (again.ingestFile later batch ⟨name, upload.content⟩).2.link.store.unitByDigest?
              (Digest.hex upload.content) = some u ∧
            (again.ingestFile later batch ⟨name, upload.content⟩).2.link.store.Served u.id) ∨
    ((∃ reason, w.link.outage? .insertWork = some reason ∧
        ingest.1 = .error (Workspace.databaseError "insert work" reason)) ∧
      Workspace.Strands ingest.2.link.store upload.content) := by
  intro ingest
  have repeated (still : ingest.2.link.store.Covered) (again : Workspace) (later : Instant)
      (batch : RowId) (name : Bytes) (result : Ingested)
      (same : again.link.store = ingest.2.link.store)
      (ingested : (again.ingestFile later batch ⟨name, upload.content⟩).1 = .ok result) :=
    have covered : again.link.store.Covered := same ▸ still
    Workspace.served_of_ok covered ingested
  have ingests : Workspace.Ingests w now batch upload ingest.1 ingest.2 :=
    Workspace.ingests_ingestFile w now batch upload
  generalize ingest.1 = outcome, ingest.2 = after at ingests repeated ⊢
  cases ingests with
  | refused e files => exact .inl ⟨covered, repeated covered⟩
  | duplicate found => exact .inl ⟨covered, repeated covered⟩
  | @stranded kept reason new there copied failing =>
      -- The unit is there and its job is not, and the next lookup of the digest finds the unit.
      right
      have known := Store.unitByDigest?_withUnit (u := Workspace.newUnit now batch upload) new
      refine ⟨⟨reason, failing, rfl⟩, _, (Store.mem_of_unitByDigest? known).1, rfl,
        anchored.not_served _, ?_⟩
      intro again later home name same
      have store : again.link.store = w.link.store.withUnit (Workspace.newUnit now batch upload) :=
        same
      have found : again.link.store.unitByDigest? (Digest.hex (Upload.mk name upload.content).content)
          = _ := store ▸ known
      obtain ⟨unchanged, answers⟩ := Workspace.ingestFile_known later home found
      exact ⟨unchanged.trans same, answers⟩
  | taken new =>
      have still := covered.withWork (u := Workspace.newUnit now batch upload) now
      exact .inl ⟨still, repeated still⟩

theorem ingest_retry_disk_full :
    let link : Connection := { store := ({} : Store).insertBatch [] [] .zero |>.2 }
    let stocked := (Workspace.ingestFile ⟨link, .inMemory, utf8 "/data"⟩ .zero 1
      ⟨utf8 "b.asn", utf8 "B"⟩).2
    let w : Workspace :=
      { stocked with link := stocked.link.fail .insertWork (utf8 "disk full") }
    let ingest := w.ingestFile .zero 1 ⟨utf8 "a.asn", utf8 "A"⟩
    w.link.store.units.rows.map SourceUnit.id = [1] ∧
      w.link.store.works.rows.map (fun j => (j.unit, j.status)) = [(1, .queued)] ∧
      w.link.store.Anchored ∧ w.link.store.Covered ∧
      Workspace.Strands ingest.2.link.store (utf8 "A") := by
  intro link stocked w ingest
  have anchored : w.link.store.Anchored := by
    refine ⟨⟨?_, ?_⟩, ?_⟩
    · decide +kernel
    · decide +kernel
    · decide +kernel
  have covered : w.link.store.Covered := by
    unfold Store.Covered Store.Served
    decide +kernel
  have unserved : ¬ ingest.2.link.store.Covered := by
    unfold Store.Covered Store.Served
    decide +kernel
  refine ⟨by decide +kernel, by decide +kernel, anchored, covered, ?_⟩
  rcases ingest_retry anchored covered .zero 1 ⟨utf8 "a.asn", utf8 "A"⟩ with ⟨still, -⟩ | ⟨-, strands⟩
  · exact absurd still unserved
  · exact strands

/-- A retry that nothing hinders leaves the content without a job, and answers that it is a
duplicate. -/
theorem retry_of_stranded_is_duplicate :
    let link : Connection := ({ store := ({} : Store).insertBatch [] [] .zero |>.2 } : Connection).fail
      .insertWork (utf8 "disk full")
    let w : Workspace := ⟨link, .inMemory, utf8 "/data"⟩
    let upload : Upload := ⟨utf8 "a.asn", utf8 "A"⟩
    let failed := w.ingestFile .zero 1 upload
    let retried : Workspace := { failed.2 with link := failed.2.link.unfail .insertWork }
    let again := retried.ingestFile .zero 1 upload
    failed.1.toOption = none ∧ again.1.toOption = some ⟨1, 0, Digest.hex upload.content, true⟩ ∧
      again.2.link.store.units.size = 1 ∧ again.2.link.store.works.rows = [] := by
  decide +kernel

end AsnLexis
