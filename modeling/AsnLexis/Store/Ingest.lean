import AsnLexis.Store.Basic

/-! Batches and source units in the store. -/

namespace AsnLexis.Store

def insertBatch (s : Store) (label createdBy : Bytes) (createdAt : Instant) : RowId × Store :=
  let row (id : RowId) : Batch := ⟨id, label, present createdBy, createdAt.text⟩
  (s.batches.next, { s with batches := s.batches.push row })

structure NewUnit where
  batch : Option RowId
  name : Bytes
  digest : Bytes
  size : Int
  path : Bytes
  createdAt : Instant
  deriving DecidableEq, Repr

/-- Adds a source unit. No two units have one digest, and the batch must exist. -/
def insertUnit (s : Store) (u : NewUnit) : Except Constraint (RowId × Store) :=
  if (s.unitByDigest? u.digest).isSome then .error .uniqueDigest
  else if u.batch.any (fun id => (s.batch? id).isNone) then .error .reference
  else
    let row (id : RowId) : SourceUnit :=
      ⟨id, u.batch, u.name, u.digest, u.size, u.path, u.createdAt.text⟩
    .ok (s.units.next, { s with units := s.units.push row })

end AsnLexis.Store
