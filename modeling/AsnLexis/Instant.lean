import AsnLexis.Text.Numeral

/-! Instants in whole seconds, and their written form `2001-02-03T04:05:06Z`. -/

namespace AsnLexis

/-- Seconds since the beginning of the year 1. -/
structure Instant where
  seconds : Int
  deriving DecidableEq, Repr

namespace Instant

def zero : Instant := ⟨0⟩

def secondsPerDay : Int := 86400

def daysBeforeYear (year : Int) : Int :=
  let y := year - 1
  365 * y + y / 4 - y / 100 + y / 400

def isLeap (year : Int) : Bool := year % 4 == 0 && (year % 100 != 0 || year % 400 == 0)

def monthLengths (year : Int) : List Nat :=
  [31, if isLeap year then 29 else 28, 31, 30, 31, 30, 31, 31, 30, 31, 30, 31]

/-- The last year that begins on or before a day, found near the average year's count. -/
def yearOfDay (day : Int) : Int :=
  let guess := day * 400 / 146097 + 1
  if daysBeforeYear (guess + 1) ≤ day then guess + 1
  else if day < daysBeforeYear guess then guess - 1
  else guess

def monthOfDay (month : Nat) (rest : Nat) : List Nat → Nat × Nat
  | [] => (month, rest + 1)
  | length :: lengths =>
    if rest < length then (month, rest + 1) else monthOfDay (month + 1) (rest - length) lengths

def padded (width n : Nat) : Bytes :=
  let digits := Numeral.decimal n
  List.replicate (width - digits.length) (0x30 : UInt8) ++ digits

def year (t : Instant) : Int := yearOfDay (t.seconds / secondsPerDay)

def text (t : Instant) : Bytes :=
  let rest := (t.seconds % secondsPerDay).toNat
  let intoYear := (t.seconds / secondsPerDay - daysBeforeYear t.year).toNat
  let (month, day) := monthOfDay 1 intoYear (monthLengths t.year)
  padded 4 t.year.toNat ++ utf8 "-" ++ padded 2 month ++ utf8 "-" ++ padded 2 day ++ utf8 "T"
    ++ padded 2 (rest / 3600) ++ utf8 ":" ++ padded 2 (rest / 60 % 60) ++ utf8 ":"
    ++ padded 2 (rest % 60) ++ utf8 "Z"

def digits? : Nat → Nat → Bytes → Option (Nat × Bytes)
  | 0, value, rest => some (value, rest)
  | count + 1, value, b :: rest =>
    if 0x30 ≤ b && b ≤ 0x39 then digits? count (value * 10 + (b.toNat - 0x30)) rest else none
  | _ + 1, _, [] => none

def marked? (count : Nat) (mark : Char) (text : Bytes) : Option (Nat × Bytes) :=
  match digits? count 0 text with
  | some (value, b :: rest) => if b.toNat == mark.toNat then some (value, rest) else none
  | _ => none

def isDigitByte (b : UInt8) : Bool := 0x30 ≤ b && b ≤ 0x39

def skipFraction : Bytes → Bytes
  | mark :: b :: rest =>
    if (mark == 0x2E || mark == 0x2C) && isDigitByte b then rest.dropWhile isDigitByte
    else mark :: b :: rest
  | rest => rest

def zone? : Bytes → Option Int
  | [0x5A] => some 0
  | sign :: rest =>
    match marked? 2 ':' rest with
    | some (hours, rest) =>
      match digits? 2 0 rest with
      | some (minutes, []) =>
        let ahead : Int := hours * 3600 + minutes * 60
        if hours < 24 && minutes < 60 then
          if sign == 0x2B then some ahead else if sign == 0x2D then some (-ahead) else none
        else none
      | _ => none
    | none => none
  | [] => none

def ofText? (text : Bytes) : Option Instant := do
  let (year, text) ← marked? 4 '-' text
  let (month, text) ← marked? 2 '-' text
  let (day, text) ← marked? 2 'T' text
  let (hour, text) ← marked? 2 ':' text
  let (minute, text) ← marked? 2 ':' text
  let (second, text) ← digits? 2 0 text
  let ahead ← zone? (skipFraction text)
  let lengths := monthLengths year
  let length ← lengths[month - 1]?
  if 1 ≤ month && 1 ≤ day && day ≤ length && hour < 24 && minute < 60 && second < 60 then
    let before : Nat := (lengths.take (month - 1)).foldl (· + ·) 0
    let days := daysBeforeYear year + before + (day - 1 : Nat)
    some ⟨days * secondsPerDay + (hour * 3600 + minute * 60 + second : Nat) - ahead⟩
  else none

end Instant

/-- A written instant as a store keeps it. Any text can stand in its place; stamps are compared as
texts. -/
abbrev Stamp := Bytes

/-- The instant of a stamp; the beginning of the year 1 when it is none. -/
def Stamp.instant (stamp : Stamp) : Instant := (Instant.ofText? stamp).getD .zero

end AsnLexis
