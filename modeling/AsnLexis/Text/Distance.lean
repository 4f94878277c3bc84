import AsnLexis.Text.Utf8

/-! Edit distance: how many bytes have to be put in, taken out or exchanged to get from one text to
another. -/

namespace AsnLexis.Distance

/-- One more byte `x` of the first text. `row` holds the distances so far to the beginnings of the
second text from the next one on, `diagonal` the one before them, and `left` the new distance to the
same beginning. -/
def extend (x : UInt8) (left diagonal : Nat) : Bytes → List Nat → List Nat
  | y :: rest, above :: row =>
    let here := if x == y then diagonal else min (min left above) diagonal + 1
    here :: extend x here above rest row
  | _, _ => []

def step (target : Bytes) (row : List Nat) (x : UInt8) : List Nat :=
  match row with
  | [] => []
  | first :: row => (first + 1) :: extend x (first + 1) first target row

def distance (source target : Bytes) : Nat :=
  (source.foldl (step target) (List.range (target.length + 1))).getLast?.getD 0

end AsnLexis.Distance
