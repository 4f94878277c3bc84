import AsnLexis.Instant

/-! Written dates and times as a plain scalar may hold them: a year of four digits, the other
numbers of one or two, a time behind `T`, `t` or blanks. -/

namespace AsnLexis.Yaml.Timestamp

open AsnLexis.Instant (isDigitByte skipFraction monthLengths digits?)

def number? : Bytes → Option (Nat × Bytes)
  | a :: b :: rest =>
    if !isDigitByte a then none
    else if isDigitByte b then some ((a.toNat - 0x30) * 10 + (b.toNat - 0x30), rest)
    else some (a.toNat - 0x30, b :: rest)
  | [a] => if isDigitByte a then some (a.toNat - 0x30, []) else none
  | [] => none

def after? (mark : Char) : Bytes → Option Bytes
  | b :: rest => if b.toNat == mark.toNat then some rest else none
  | [] => none

def date? (text : Bytes) : Option Bytes := do
  let (year, text) ← digits? 4 0 text
  let (month, text) ← number? (← after? '-' text)
  let (day, text) ← number? (← after? '-' text)
  let length ← (monthLengths year)[month - 1]?
  if 1 ≤ month && 1 ≤ day && day ≤ length then some text else none

def clock? (text : Bytes) : Option Bytes := do
  let (hour, text) ← number? text
  let (minute, text) ← number? (← after? ':' text)
  let (second, text) ← number? (← after? ':' text)
  if hour < 24 && minute < 60 && second < 60 then some (skipFraction text) else none

def isZone : Bytes → Bool
  | [0x5A] => true
  | sign :: rest =>
    (sign == 0x2B || sign == 0x2D)
      && ((do
        let (hours, text) ← digits? 2 0 rest
        let (minutes, text) ← digits? 2 0 (← after? ':' text)
        if hours ≤ 24 && minutes ≤ 60 && text.isEmpty then some () else none) : Option Unit).isSome
  | [] => false

/-- Whether a text is a date, or a date and a time. Only a time behind a letter has a zone. -/
def isWritten (text : Bytes) : Bool :=
  match date? text with
  | none => false
  | some [] => true
  | some (b :: rest) =>
    if b == 0x54 || b == 0x74 then (clock? rest).any isZone
    else b == 0x20 && (clock? (rest.dropWhile (· == 0x20))).any List.isEmpty

end AsnLexis.Yaml.Timestamp
