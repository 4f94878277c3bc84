import AsnLexis.Text.Numeral

/-! Reading whole numbers: a sign, a mark of the base, and digits, with single underscores between
digits. The numbers are those of 64 bits. -/

namespace AsnLexis.Integer

inductive Flaw where
  | malformed
  | outOfRange
  deriving DecidableEq, Repr

def Flaw.message : Flaw → Bytes
  | malformed => utf8 "invalid syntax"
  | outOfRange => utf8 "value out of range"

def underscore : UInt8 := 0x5F

def lower (b : UInt8) : UInt8 := if 0x41 ≤ b && b ≤ 0x5A then b + 0x20 else b

def digit? (b : UInt8) : Option Nat :=
  let b := lower b
  if 0x30 ≤ b && b ≤ 0x39 then some (b.toNat - 0x30)
  else if 0x61 ≤ b && b ≤ 0x7A then some (b.toNat - 0x61 + 10)
  else none

/-- Base and digits of a number without its sign: `0b`, `0o` and `0x` mark a base if digits follow,
and so does a bare `0`. The flag says whether a mark of two characters was there. -/
def unmark : Bytes → Nat × Bytes × Bool
  | 0x30 :: mark :: d :: rest =>
    if lower mark == 0x62 then (2, d :: rest, true)
    else if lower mark == 0x6F then (8, d :: rest, true)
    else if lower mark == 0x78 then (16, d :: rest, true)
    else (8, mark :: d :: rest, false)
  | 0x30 :: rest => (8, rest, false)
  | digits => (10, digits, false)

def limit (signed : Bool) : Nat := if signed then 0x8000000000000000 else 0x10000000000000000

/-- The digits read so far stand for `value`; it must stay below the limit of unsigned numbers. -/
def digits (base value : Nat) : Bytes → Except Flaw Nat
  | [] => .ok value
  | b :: rest =>
    if b == underscore then digits base value rest
    else
      match digit? b with
      | none => .error .malformed
      | some d =>
        if base ≤ d then .error .malformed
        else if limit false ≤ value * base + d then .error .outOfRange
        else digits base (value * base + d) rest

/-- Whether each underscore has a digit before it and behind it. `after` says whether a digit, or
the mark of a base, stands before the text. -/
def isSpaced (after : Bool) : Bytes → Bool
  | [] => true
  | b :: rest =>
    if b == underscore then
      after && rest.head?.any (fun next => next != underscore) && isSpaced false rest
    else isSpaced true rest

def sign : Bytes → Bool × Bytes
  | 0x2D :: rest => (true, rest)
  | 0x2B :: rest => (false, rest)
  | rest => (false, rest)

def read (text : Bytes) : Except Flaw Int :=
  let (negative, unsigned) := sign text
  let (base, body, marked) := unmark unsigned
  if unsigned.isEmpty then .error .malformed
  else
    match digits base 0 body with
    | .error flaw => .error flaw
    | .ok value =>
      if !isSpaced (marked || base == 8) body then .error .malformed
      else if negative then
        if limit true < value then .error .outOfRange else .ok (-(value : Int))
      else if limit true ≤ value then .error .outOfRange else .ok value

def readUnsigned (text : Bytes) : Except Flaw Nat :=
  let (base, body, marked) := unmark text
  if text.isEmpty then .error .malformed
  else
    match digits base 0 body with
    | .error flaw => .error flaw
    | .ok value => if isSpaced (marked || base == 8) body then .ok value else .error .malformed

def readBase (base : Nat) (text : Bytes) : Except Flaw Int :=
  let (negative, body) := sign text
  if body.isEmpty || body.contains underscore then .error .malformed
  else
    match digits base 0 body with
    | .error flaw => .error flaw
    | .ok value =>
      if negative then if limit true < value then .error .outOfRange else .ok (-(value : Int))
      else if limit true ≤ value then .error .outOfRange else .ok value

end AsnLexis.Integer
