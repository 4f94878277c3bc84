import AsnLexis.Text.Utf8

/-! Numbers with 53 significant bits, rounded from written decimals. -/

namespace AsnLexis

/-- A finite number is a mantissa times a power of two. -/
inductive Binary64 where
  | finite (negative : Bool) (mantissa : Nat) (exponent : Int)
  | infinite (negative : Bool)
  | notANumber
  deriving DecidableEq, Repr

namespace Binary64

def scale (num den : Nat) (exponent : Int) : Nat × Nat :=
  if 0 ≤ exponent then (num, den <<< exponent.toNat) else (num <<< (-exponent).toNat, den)

/-- The exponent for which a ratio has 53 bits, but none below that of the least number. -/
def exponentOf (num den : Nat) : Int :=
  let guess : Int := (Nat.log2 num : Int) - Nat.log2 den - 52
  let (n, d) := scale num den guess
  let exact := if n / d < 1 <<< 52 then guess - 1 else if n / d < 1 <<< 53 then guess else guess + 1
  max exact (-1074)

def nearest (num den : Nat) : Nat :=
  let whole := num / den
  let rest := 2 * (num % den)
  if rest < den || (rest == den && whole % 2 == 0) then whole else whole + 1

/-- The number next to a ratio, if none above all numbers is. -/
def ofRatio? (negative : Bool) (num den : Nat) : Option Binary64 :=
  let exponent := exponentOf num den
  let (n, d) := scale num den exponent
  let mantissa := nearest n d
  if mantissa != 0 && 1024 ≤ exponent + Nat.log2 mantissa then none
  else some (.finite negative mantissa exponent)

def ofNat? (negative : Bool) (n : Nat) : Option Binary64 := ofRatio? negative n 1

def ofDecimal? (negative : Bool) (digits : Nat) (exponent : Int) : Option Binary64 :=
  let size := exponent + (Nat.toDigits 10 digits).length
  if digits = 0 || size < -400 then some (.finite negative 0 0)
  else if 400 < size then none
  else if 0 ≤ exponent then ofRatio? negative (digits * Nat.pow 10 exponent.toNat) 1
  else ofRatio? negative digits (Nat.pow 10 (-exponent).toNat)

/-- A number without its fraction, as a whole number of 64 bits. One that is too small, and the
power of two that is the first too great one, become the least such number; greater ones have
none. -/
def toInt64? : Binary64 → Option Int
  | notANumber => none
  | infinite negative => if negative then some (-0x8000000000000000) else none
  | finite negative mantissa exponent =>
    let size :=
      if 0 ≤ exponent then mantissa <<< exponent.toNat else mantissa >>> (-exponent).toNat
    if negative then some (-(min size 0x8000000000000000 : Nat))
    else if size < 0x8000000000000000 then some size
    else if size = 0x8000000000000000 then some (-0x8000000000000000)
    else none

def isDigit (b : UInt8) : Bool := 0x30 ≤ b && b ≤ 0x39

def digitsValue (digits : Bytes) : Nat :=
  digits.foldl (fun n b => n * 10 + (b.toNat - 0x30)) 0

def sign : Bytes → Bool × Bytes
  | 0x2D :: rest => (true, rest)
  | 0x2B :: rest => (false, rest)
  | rest => (false, rest)

def exponent? : Bytes → Option Int
  | [] => some 0
  | mark :: rest =>
    let (negative, digits) := sign rest
    if (mark == 0x65 || mark == 0x45) && !digits.isEmpty && digits.all isDigit then
      let size : Int := digitsValue digits
      some (if negative then -size else size)
    else none

/-- Reads a sign, digits with maybe a point before, among or behind them, and maybe a power of ten.
There is no number above all numbers. -/
def ofText? (text : Bytes) : Option Binary64 :=
  let (negative, text) := sign text
  let whole := text.takeWhile isDigit
  let text := text.dropWhile isDigit
  let (fraction, text) :=
    match text with
    | 0x2E :: rest => (rest.takeWhile isDigit, rest.dropWhile isDigit)
    | rest => ([], rest)
  if whole.isEmpty && fraction.isEmpty then none
  else
    (exponent? text).bind fun exponent =>
      ofDecimal? negative (digitsValue (whole ++ fraction)) (exponent - fraction.length)

end Binary64

end AsnLexis
