import AsnLexis.Pipeline.Connection
import Mathlib

/-! Tables of a store, and calls on a store that answers all of them, or the most important ones. Ids
rise from row to row of a table, and none is above the last one given out. -/

namespace AsnLexis

namespace Table

variable {α : Type} {t : Table α} {id : α → RowId}

structure Numbered (t : Table α) (id : α → RowId) : Prop where
  rising : (t.rows.map id).Pairwise (· < ·)
  bounded : ∀ row ∈ t.rows, id row ≤ t.last

namespace Numbered

theorem of_nil (empty : t.rows = []) : t.Numbered id := by
  constructor
  · rw [empty]
    exact .nil
  · rw [empty]
    intro row member
    cases member

theorem nodup (numbered : t.Numbered id) : (t.rows.map id).Nodup :=
  numbered.rising.imp fun less => ne_of_lt less

theorem eq_of_id (numbered : t.Numbered id) {a b : α} (first : a ∈ t.rows) (second : b ∈ t.rows)
    (same : id a = id b) : a = b :=
  List.inj_on_of_nodup_map numbered.nodup first second same

theorem push (numbered : t.Numbered id) {row : RowId → α} (own : id (row t.next) = t.next) :
    (t.push row).Numbered id := by
  have above : ∀ r ∈ t.rows, id r < t.next := fun r member =>
    Int.lt_add_one_of_le (numbered.bounded r member)
  constructor
  · rw [Table.push, List.map_append, List.map_singleton, own, List.pairwise_append]
    refine ⟨numbered.rising, List.pairwise_singleton _ _, ?_⟩
    intro x first y last
    obtain ⟨r, member, rfl⟩ := List.mem_map.1 first
    rw [List.mem_singleton.1 last]
    exact above r member
  · intro r member
    rcases List.mem_append.1 member with before | last
    · exact le_of_lt (above r before)
    · rw [List.mem_singleton.1 last, own]
      exact le_refl _

theorem map (numbered : t.Numbered id) {f : α → α} (keeps : ∀ row, id (f row) = id row) :
    (t.map f).Numbered id := by
  have same : (t.map f).rows.map id = t.rows.map id := by
    rw [Table.map, List.map_map]
    exact List.map_congr_left fun row _ => keeps row
  constructor
  · rw [same]
    exact numbered.rising
  · intro row member
    obtain ⟨before, inside, rfl⟩ := List.mem_map.1 member
    rw [keeps]
    exact numbered.bounded before inside

end Numbered

def rowsFrom (first : RowId) : List (RowId → α) → List α
  | [] => []
  | row :: rest => row first :: rowsFrom (first + 1) rest

def pushAll (t : Table α) : List (RowId → α) → Table α
  | [] => t
  | row :: rest => (t.push row).pushAll rest

theorem rows_pushAll (t : Table α) (rows : List (RowId → α)) :
    (t.pushAll rows).rows = t.rows ++ rowsFrom t.next rows := by
  induction rows generalizing t with
  | nil => simp [pushAll, rowsFrom]
  | cons row rows ih =>
      rw [pushAll, ih, push, List.append_assoc]
      rfl

theorem map_rowsFrom {β γ : Type} {row : β → RowId → α} {f : α → γ} {g : β → γ}
    (agree : ∀ b id, f (row b id) = g b) (bs : List β) (first : RowId) :
    (rowsFrom first (bs.map row)).map f = bs.map g := by
  induction bs generalizing first with
  | nil => rfl
  | cons b bs ih => rw [List.map_cons, rowsFrom, List.map_cons, agree, ih, List.map_cons]

theorem forall₂_rowsFrom {β : Type} {row : β → RowId → α} {R : α → β → Prop}
    (each : ∀ b id, R (row b id) b) (bs : List β) (first : RowId) :
    List.Forall₂ R (rowsFrom first (bs.map row)) bs := by
  induction bs generalizing first with
  | nil => exact .nil
  | cons b bs ih => exact .cons (each b first) (ih (first + 1))

theorem mem_rowsFrom {β : Type} {row : β → RowId → α} {bs : List β} {first : RowId} {r : α}
    (member : r ∈ rowsFrom first (bs.map row)) : ∃ b ∈ bs, ∃ id, r = row b id := by
  induction bs generalizing first with
  | nil => cases member
  | cons b bs ih =>
      rcases List.mem_cons.1 member with here | later
      · exact ⟨b, List.mem_cons_self, first, here⟩
      · obtain ⟨c, inside, id, same⟩ := ih later
        exact ⟨c, List.mem_cons_of_mem b inside, id, same⟩

section Group

variable {β : Type} (row : β → RowId → α) (group : α → RowId) {key : RowId}

theorem filter_pushAll_self (own : ∀ b id, group (row b id) = key)
    (fresh : ∀ r ∈ t.rows, group r ≠ key) (bs : List β) :
    (t.pushAll (bs.map row)).rows.filter (group · == key) = rowsFrom t.next (bs.map row) := by
  have old : t.rows.filter (group · == key) = [] := by
    rw [List.filter_eq_nil_iff]
    intro r member
    simpa using fresh r member
  have added : (rowsFrom t.next (bs.map row)).filter (group · == key)
      = rowsFrom t.next (bs.map row) := by
    rw [List.filter_eq_self]
    intro r member
    obtain ⟨b, _, id, rfl⟩ := mem_rowsFrom member
    simpa using own b id
  rw [rows_pushAll, List.filter_append, old, added, List.nil_append]

theorem filter_pushAll_other (own : ∀ b id, group (row b id) = key) {other : RowId}
    (apart : other ≠ key) (bs : List β) :
    (t.pushAll (bs.map row)).rows.filter (group · == other)
      = t.rows.filter (group · == other) := by
  have added : (rowsFrom t.next (bs.map row)).filter (group · == other) = [] := by
    rw [List.filter_eq_nil_iff]
    intro r member
    obtain ⟨b, _, id, rfl⟩ := mem_rowsFrom member
    simpa [own b id] using apart.symm
  rw [rows_pushAll, List.filter_append, added, List.append_nil]

end Group

theorem foldlM_insert {β ε : Type} {insert : Table α → β → Except ε (Table α)}
    {row : β → RowId → α} (clash : α → β → Prop)
    (free : ∀ t b, (∀ r ∈ t.rows, ¬ clash r b) → insert t b = .ok (t.push (row b)))
    {bs : List β} (apart : bs.Pairwise fun b c => ∀ id, ¬ clash (row b id) c) {t : Table α}
    (fresh : ∀ r ∈ t.rows, ∀ b ∈ bs, ¬ clash r b) :
    bs.foldlM insert t = .ok (t.pushAll (bs.map row)) := by
  -- The row that is added clashes with none of those to come.
  induction bs generalizing t with
  | nil => rfl
  | cons b bs ih =>
      obtain ⟨first, others⟩ := List.pairwise_cons.1 apart
      have added := free t b fun r member => fresh r member b List.mem_cons_self
      have later : ∀ r ∈ (t.push (row b)).rows, ∀ c ∈ bs, ¬ clash r c := by
        intro r member c inside
        rcases List.mem_append.1 member with before | last
        · exact fresh r before c (List.mem_cons_of_mem b inside)
        · rw [List.mem_singleton.1 last]
          exact first c inside _
      rw [List.foldlM_cons, added]
      exact ih others later

end Table

namespace Connection

variable {c : Connection} {call : Call} {α ε : Type}

/-- A call that is not refused comes to what it comes to in the store: a change is made, or a rule of
the store forbids it and nothing changes. -/
theorem insert_eq (reached : c.barrier? = none) (answers : c.outage? call = none) (title : Bytes)
    (step : Store → Except ε (α × Store)) (explain : ε → Error) :
    c.insert call title step explain
      = match step c.store with
        | .error e => (.error (explain e), c)
        | .ok (a, after) => (.ok a, c.withStore after) := by
  rw [insert, askCall, answers, ask, reached]
  cases step c.store <;> rfl

theorem insert_ofStore (s : Store) (call : Call) (title : Bytes)
    (step : Store → Except ε (α × Store)) (explain : ε → Error) :
    (ofStore s).insert call title step explain
      = match step s with
        | .error e => (.error (explain e), ofStore s)
        | .ok (a, after) => (.ok a, ofStore after) :=
  insert_eq rfl rfl title step explain

theorem insert_cases (c : Connection) (call : Call) (title : Bytes)
    (step : Store → Except ε (α × Store)) (explain : ε → Error) :
    (∃ e, c.insert call title step explain = (.error e, c)) ∨
      ∃ a after, c.barrier? = none ∧ step c.store = .ok (a, after) ∧
        c.insert call title step explain = (.ok a, c.withStore after) := by
  rw [insert]
  split
  next e _ => exact .inl ⟨e, rfl⟩
  next e _ => exact .inl ⟨explain e, rfl⟩
  next a after answered =>
    unfold askCall ask at answered
    split at answered
    · cases answered
    · split at answered
      next => cases answered
      next reached => exact .inr ⟨a, after, reached, Except.ok.inj answered, rfl⟩

theorem insert_of_outage {reason : Error} (failing : c.outage? call = some reason) (title : Bytes)
    (step : Store → Except ε (α × Store)) (explain : ε → Error) :
    c.insert call title step explain = (.error reason, c) := by
  rw [insert, askCall, failing]

theorem claimWork_ofStore (s : Store) (stage worker : Bytes) (now : Instant) :
    (ofStore s).claimWork stage worker now
      = (.ok (s.claimWork stage worker now).1, ofStore (s.claimWork stage worker now).2) := rfl

def finishTitle (id : RowId) : Bytes := utf8 "finish work " ++ Numeral.signed id

theorem finishWork_eq (reached : c.barrier? = none) (answers : c.outage? .finishWork = none)
    (id : RowId) (status code message : Bytes) (now : Instant) :
    c.finishWork id status code message now
      = match Store.Ending.ofText? status with
        | none =>
          let reason := utf8 "invalid status " ++ Quoted.text status
          (.error (.wrap (finishTitle id) (.ofText reason)), c)
        | some ending =>
          match c.store.finishWork? id ending code message now with
          | none => (.error (.wrap (finishTitle id) (.ofText (utf8 "not running"))), c)
          | some after => (.ok (), c.withStore after) := by
  rw [finishWork]
  simp only [answers, ask, reached]
  cases Store.Ending.ofText? status with
  | none => rfl
  | some ending =>
      simp only
      cases c.store.finishWork? id ending code message now <;> rfl

theorem finishWork_ofStore (s : Store) (id : RowId) (status code message : Bytes) (now : Instant) :
    (ofStore s).finishWork id status code message now
      = match Store.Ending.ofText? status with
        | none =>
          let reason := utf8 "invalid status " ++ Quoted.text status
          (.error (.wrap (finishTitle id) (.ofText reason)), ofStore s)
        | some ending =>
          match s.finishWork? id ending code message now with
          | none => (.error (.wrap (finishTitle id) (.ofText (utf8 "not running"))), ofStore s)
          | some after => (.ok (), ofStore after) :=
  finishWork_eq rfl rfl id status code message now

theorem unitByDigest?_eq_ok {digest : Bytes} {answer : Option SourceUnit}
    (asked : c.unitByDigest? digest = .ok answer) : c.store.unitByDigest? digest = answer := by
  unfold unitByDigest? askCall ask at asked
  split at asked
  · cases asked
  · split at asked
    · cases asked
    · exact Except.ok.inj asked

theorem unit?_eq_some {id : RowId} {u : SourceUnit} (found : c.unit? id = .ok (some u)) :
    c.store.unit? id = some u := by
  unfold unit? ask at found
  split at found
  next => cases found
  next =>
    split_ifs at found with hidden
    · cases found
    · split at found
      · cases found
      · exact Except.ok.inj found

/-- A store that can be reached, and in which jobs can be queued and finished and scans be stored.
Other calls may fail. -/
structure Steady (c : Connection) : Prop where
  reached : c.barrier? = none
  insertWork : c.outage? .insertWork = none
  finishWork : c.outage? .finishWork = none
  insertScan : c.outage? .insertScan = none

theorem Steady.withStore (steady : c.Steady) (s : Store) : (c.withStore s).Steady :=
  ⟨steady.reached, steady.insertWork, steady.finishWork, steady.insertScan⟩

theorem steady_ofStore (s : Store) : (ofStore s).Steady := ⟨rfl, rfl, rfl, rfl⟩

end Connection

end AsnLexis
