/-! Tables over code points: stretches of code points that share a value, on shelves in ascending
order, so that a look-up passes whole shelves before it reads one. -/

namespace AsnLexis.Unicode

/-- The code points `first`, `first + step`, … up to `last`, all with one value. -/
structure Stretch (α : Type) where
  first : Nat
  last : Nat
  step : Nat
  value : α

/-- Stretches in ascending order, none of which reaches past `last`. -/
structure Shelf (α : Type) where
  last : Nat
  stretches : List (Stretch α)

abbrev Table (α : Type) := List (Shelf α)

def one (code : Nat) : Stretch Unit := ⟨code, code, 1, ()⟩

def run (first last : Nat) : Stretch Unit := ⟨first, last, 1, ()⟩

def alternate (first last : Nat) : Stretch Unit := ⟨first, last, 2, ()⟩

def is {α : Type} (code : Nat) (value : α) : Stretch α := ⟨code, code, 1, value⟩

def Stretch.holds {α : Type} (s : Stretch α) (code : Nat) : Bool :=
  s.first ≤ code && code ≤ s.last && (code - s.first) % s.step == 0

def findStretch? {α : Type} (code : Nat) : List (Stretch α) → Option α
  | [] => none
  | s :: rest =>
    if code < s.first then none
    else if s.holds code then some s.value
    else findStretch? code rest

def Table.find? {α : Type} : Table α → Nat → Option α
  | [], _ => none
  | shelf :: rest, code =>
    if shelf.last < code then Table.find? rest code else findStretch? code shelf.stretches

def Table.has (table : Table Unit) (c : Char) : Bool := (table.find? c.toNat).isSome

end AsnLexis.Unicode
