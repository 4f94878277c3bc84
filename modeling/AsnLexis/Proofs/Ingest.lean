import AsnLexis.Proofs.Jobs
import Mathlib

/-! Taking files in on a store that answers every call. Content that is new gets a copy, a source
unit and a queued job; in memory the copy can always be made and read. -/

namespace AsnLexis

theorem lookup_filter {α β : Type} [BEq α] [LawfulBEq α] (q : α → Bool) (entries : List (α × β))
    (a : α) : (entries.filter (q ·.1)).lookup a = if q a then entries.lookup a else none := by
  induction entries with
  | nil => simp
  | cons entry entries ih =>
      obtain ⟨b, value⟩ := entry
      by_cases same : a = b
      · subst same
        by_cases kept : q a <;> simp [kept, ih]
      · have other : (a == b) = false := by simpa using same
        by_cases kept : q b <;> simp [kept, ih, List.lookup_cons, other]

theorem lookup_filter_ne {α : Type} {other key : Bytes} (apart : key ≠ other)
    (entries : List (Bytes × α)) :
    (entries.filter (·.1 != other)).lookup key = entries.lookup key := by
  rw [lookup_filter (· != other), if_pos (by simpa using apart)]

namespace MemoryFiles

variable (m : MemoryFiles)

theorem node?_put_self (path : Bytes) (node : MemoryNode) :
    (m.put path node).node? path = some node := by
  simp [put, node?]

theorem node?_put_other {path other : Bytes} (apart : key path ≠ key other) (node : MemoryNode) :
    (m.put other node).node? path = m.node? path := by
  have miss : (key path == key other) = false := by simpa using apart
  simp only [put, erase, node?, List.lookup, miss]
  exact lookup_filter_ne apart m.nodes

variable {m}

theorem content_enter {path : Bytes} {node : MemoryNode} (found : m.node? path = some node)
    (entered : Bytes) (directories : List Bytes) :
    ∃ after, (m.enter entered directories).node? path = some after ∧
      after.content = node.content := by
  induction directories generalizing m entered node with
  | nil => exact ⟨node, found, rfl⟩
  | cons directory rest ih =>
      rw [enter]
      by_cases own : key path = key directory
      · have here : m.node? directory = some node := by
          rw [node?, ← own]
          exact found
        have put : (m.put directory (node.enter (key entered))).node? path
            = some (node.enter (key entered)) := by
          rw [node?, own]
          exact m.node?_put_self directory _
        simp only [here]
        exact ⟨_, put, rfl⟩
      · cases m.node? directory with
        | some other =>
            simp only
            rw [m.node?_put_other own]
            exact ⟨node, found, rfl⟩
        | none =>
            simp only
            exact ih ((m.node?_put_other own _).trans found) directory

theorem read_write (m : MemoryFiles) (path content : Bytes) :
    (m.write path content).read path = .ok content := by
  unfold write
  split
  next node found => rw [read, node?_put_self]
  next =>
    obtain ⟨after, found, same⟩ :=
      content_enter (m.node?_put_self path { content }) path (above path)
    rw [create, read, found]
    exact congrArg Except.ok same

end MemoryFiles

namespace Store

def unitRow (u : NewUnit) (id : RowId) : SourceUnit :=
  ⟨id, u.batch, u.name, u.digest, u.size, u.path, u.createdAt.text⟩

def withUnit (s : Store) (u : NewUnit) : Store := { s with units := s.units.push (unitRow u) }

def withWork (s : Store) (unit : RowId) (now : Instant) : Store :=
  { s with works := s.works.push (Work.fresh unit scanStage now) }

variable {s : Store} {u : NewUnit}

theorem insertUnit_eq (new : s.unitByDigest? u.digest = none)
    (batch : ∀ id, u.batch = some id → (s.batch? id).isSome) :
    s.insertUnit u = .ok (s.units.next, s.withUnit u) := by
  have absent : ¬ (s.unitByDigest? u.digest).isSome := by simp [new]
  have present : ¬ u.batch.any fun id => (s.batch? id).isNone := by
    cases own : u.batch with
    | none => simp
    | some id => simpa [Option.isSome_iff_ne_none] using batch id own
  rw [insertUnit, if_neg absent, if_neg present]
  rfl

theorem insertUnit_eq_ok {id : RowId} {after : Store} (stored : s.insertUnit u = .ok (id, after)) :
    s.unitByDigest? u.digest = none ∧ (∀ id, u.batch = some id → (s.batch? id).isSome) ∧
      id = s.units.next ∧ after = s.withUnit u := by
  rw [insertUnit] at stored
  split_ifs at stored with known homeless
  cases stored
  refine ⟨by simpa using known, ?_, rfl, rfl⟩
  intro id own
  simpa [own, Option.isSome_iff_ne_none] using homeless

theorem unit?_withUnit : (s.withUnit u).unit? s.units.next ≠ none := by
  intro absent
  have last : unitRow u s.units.next ∈ (s.withUnit u).units.rows :=
    List.mem_append_right _ (List.mem_singleton_self _)
  simpa [unitRow] using List.find?_eq_none.1 absent _ last

end Store

namespace Workspace

variable (w : Workspace) {s : Store}

theorem keepCopy_withStore (path content : Bytes) :
    (w.withStore s).keepCopy path content
      = ((w.keepCopy path content).1, (w.keepCopy path content).2.withStore s) := by
  unfold keepCopy
  have place : (w.withStore s).placeOf path = w.placeOf path := rfl
  have files : (w.withStore s).files = w.files := rfl
  simp only [place, files]
  rcases w.files.makeDirectory (Path.directory (w.placeOf path)) with ⟨made, after⟩
  cases made with
  | error e => rfl
  | ok =>
      simp only
      cases after.write (w.placeOf path) content <;> rfl

theorem keepCopy_inMemory (link : Connection) (memory : MemoryFiles)
    (directory path content : Bytes) :
    ∃ kept, Workspace.keepCopy ⟨link, { medium := .memory memory }, directory⟩ path content
        = (.ok (), kept) ∧
      kept.files.read (kept.placeOf path) = .ok content :=
  ⟨_, rfl, MemoryFiles.read_write _ _ _⟩

theorem enlist_withStore {u : Store.NewUnit} (new : s.unitByDigest? u.digest = none)
    (batch : ∀ id, u.batch = some id → (s.batch? id).isSome) (now : Instant) :
    (w.withStore s).enlist u now
      = (.ok (s.units.next, s.works.next),
          w.withStore ((s.withUnit u).withWork s.units.next now)) := by
  have unit : ¬ ((s.withUnit u).unit? s.units.next).isNone := by
    rw [Option.isNone_iff_eq_none]
    exact Store.unit?_withUnit
  simp only [enlist, onStore, withStore, Connection.insertUnit, Connection.insertWork,
    Connection.insert_ofStore, Store.insertUnit_eq new batch, Queue.insertWork_queued, if_neg unit]
  rfl

def newUnit (now : Instant) (batch : RowId) (upload : Upload) : Store.NewUnit :=
  let digest := Digest.hex upload.content
  ⟨some batch, Path.base upload.name, digest, upload.content.length,
    Upload.storedPath batch digest upload.name, now⟩

theorem path_newUnit (now : Instant) (batch : RowId) (upload : Upload) :
    (newUnit now batch upload).path
      = Upload.storedPath batch (Digest.hex upload.content) upload.name := rfl

variable {w}

theorem ingestFile_withStore {kept : Workspace} (now : Instant) {batch : RowId} {upload : Upload}
    (new : s.unitByDigest? (Digest.hex upload.content) = none) (there : (s.batch? batch).isSome)
    (copied : w.keepCopy (Upload.storedPath batch (Digest.hex upload.content) upload.name)
      upload.content = (.ok (), kept)) :
    (w.withStore s).ingestFile now batch upload
      = (.ok ⟨s.units.next, s.works.next, Digest.hex upload.content, false⟩,
          kept.withStore ((s.withUnit (newUnit now batch upload)).withWork s.units.next now)) := by
  have asked : (w.withStore s).link.unitByDigest? (Digest.hex upload.content) = .ok none :=
    congrArg Except.ok new
  have enlisted := enlist_withStore kept (u := newUnit now batch upload) new
    (fun id own => Option.some.inj own ▸ there) now
  rw [newUnit] at enlisted
  simp only [ingestFile, asked, keepCopy_withStore, copied, enlisted]
  rfl

theorem keepCopy_files (w : Workspace) (path content : Bytes) :
    ∃ files, (w.keepCopy path content).2 = { w with files } := by
  unfold keepCopy
  simp only
  split
  next => exact ⟨_, rfl⟩
  next =>
    split
    · exact ⟨_, rfl⟩
    · exact ⟨_, rfl⟩

theorem openBatch_cases (w : Workspace) (label createdBy : Bytes) (now : Instant) :
    (∃ e, w.onStore (·.insertBatch label createdBy now) = (.error e, w)) ∨
      w.onStore (·.insertBatch label createdBy now)
        = (.ok (w.link.store.insertBatch label createdBy now).1,
            w.backedBy (w.link.store.insertBatch label createdBy now).2) := by
  rcases w.link.insert_cases .insertBatch (utf8 "insert upload_batch")
    (fun s => .ok (s.insertBatch label createdBy now)) Empty.elim with
    ⟨e, refused⟩ | ⟨id, after, -, made, inserted⟩
  · exact .inl ⟨e, by simp only [onStore, Connection.insertBatch, refused]⟩
  · cases made
    right
    simp only [onStore, Connection.insertBatch, inserted]
    rfl

/-- What taking a file in comes to. Something fails before the store changes, or the content is there
already. Or it is new, and is copied and has its unit; then its job is queued, unless just that
fails. -/
inductive Ingests (w : Workspace) (now : Instant) (batch : RowId) (upload : Upload) :
    Except Error Ingested → Workspace → Prop
  | refused (e : Error) (files : Files) : Ingests w now batch upload (.error e) { w with files }
  | duplicate {unit : SourceUnit}
      (found : w.link.store.unitByDigest? (Digest.hex upload.content) = some unit) :
      Ingests w now batch upload (.ok ⟨unit.id, 0, Digest.hex upload.content, true⟩) w
  | stranded {kept : Workspace} {reason : Error}
      (new : w.link.store.unitByDigest? (Digest.hex upload.content) = none)
      (there : (w.link.store.batch? batch).isSome)
      (copied : w.keepCopy (Upload.storedPath batch (Digest.hex upload.content) upload.name)
        upload.content = (.ok (), kept))
      (failing : w.link.outage? .insertWork = some reason) :
      Ingests w now batch upload (.error (databaseError "insert work" reason))
        (kept.backedBy (w.link.store.withUnit (newUnit now batch upload)))
  | taken {kept : Workspace}
      (new : w.link.store.unitByDigest? (Digest.hex upload.content) = none)
      (there : (w.link.store.batch? batch).isSome)
      (copied : w.keepCopy (Upload.storedPath batch (Digest.hex upload.content) upload.name)
        upload.content = (.ok (), kept)) :
      Ingests w now batch upload
        (.ok ⟨w.link.store.units.next, w.link.store.works.next, Digest.hex upload.content, false⟩)
        (kept.backedBy ((w.link.store.withUnit (newUnit now batch upload)).withWork
          w.link.store.units.next now))

theorem enlist_cases (w : Workspace) (u : Store.NewUnit) (now : Instant) :
    (∃ e, w.enlist u now = (.error e, w)) ∨
      w.link.store.insertUnit u = .ok (w.link.store.units.next, w.link.store.withUnit u) ∧
        ((∃ reason, w.link.outage? .insertWork = some reason ∧
          w.enlist u now = (.error (databaseError "insert work" reason),
            w.backedBy (w.link.store.withUnit u))) ∨
        w.enlist u now = (.ok (w.link.store.units.next, w.link.store.works.next),
          w.backedBy ((w.link.store.withUnit u).withWork w.link.store.units.next now))) := by
  rcases w.link.insert_cases .insertUnit (utf8 "insert source_unit") (·.insertUnit u)
    (Connection.broken (utf8 "insert source_unit")) with
    ⟨e, refused⟩ | ⟨id, after, reached, made, inserted⟩
  · refine .inl ⟨databaseError "insert source_unit" e, ?_⟩
    simp only [enlist, onStore, Connection.insertUnit, refused]
  · obtain ⟨-, -, rfl, rfl⟩ := Store.insertUnit_eq_ok made
    refine .inr ⟨made, ?_⟩
    simp only [enlist, onStore, Connection.insertUnit, inserted, Connection.insertWork]
    cases failing : w.link.outage? .insertWork with
    | some reason =>
        left
        refine ⟨reason, rfl, ?_⟩
        rw [Connection.insert_of_outage (c := w.link.withStore (w.link.store.withUnit u)) failing]
        rfl
    | none =>
        right
        have unit : ¬ ((w.link.store.withUnit u).unit? w.link.store.units.next).isNone := by
          rw [Option.isNone_iff_eq_none]
          exact Store.unit?_withUnit
        rw [Connection.insert_eq (c := w.link.withStore (w.link.store.withUnit u)) reached failing]
        simp only [Connection.withStore, Queue.insertWork_queued, if_neg unit]
        rfl

theorem ingests_ingestFile (w : Workspace) (now : Instant) (batch : RowId) (upload : Upload) :
    Ingests w now batch upload (w.ingestFile now batch upload).1
      (w.ingestFile now batch upload).2 := by
  rw [ingestFile]
  cases asked : w.link.unitByDigest? (Digest.hex upload.content) with
  | error e => exact .refused _ w.files
  | ok answer =>
      have stored := Connection.unitByDigest?_eq_ok asked
      cases answer with
      | some unit => exact .duplicate stored
      | none =>
          obtain ⟨files, same⟩ := w.keepCopy_files
            (Upload.storedPath batch (Digest.hex upload.content) upload.name) upload.content
          simp only
          rcases copied : w.keepCopy (Upload.storedPath batch (Digest.hex upload.content) upload.name)
            upload.content with ⟨outcome, kept⟩
          rw [copied] at same
          obtain rfl : kept = { w with files } := same
          cases outcome with
          | error e => exact .refused e files
          | ok =>
              rcases enlist_cases { w with files } (newUnit now batch upload) now with
                ⟨e, refused⟩ | ⟨made, ⟨reason, failing, enlisted⟩ | enlisted⟩
              · rw [newUnit] at refused
                simp only [refused]
                exact .refused e files
              · have home := (Store.insertUnit_eq_ok made).2.1 batch rfl
                rw [newUnit] at enlisted
                simp only [enlisted]
                exact .stranded stored home copied failing
              · have home := (Store.insertUnit_eq_ok made).2.1 batch rfl
                rw [newUnit] at enlisted
                simp only [enlisted]
                exact .taken stored home copied

end Workspace

end AsnLexis
