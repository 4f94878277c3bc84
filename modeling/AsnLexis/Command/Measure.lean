import AsnLexis.Command.Report

/-! How sizes and times are shown, and labels made of random bytes. -/

namespace AsnLexis

/-- A number of bytes in the largest unit it fills, with one digit behind the point below 10. -/
def sizeText (size : Nat) : Bytes := scaled size 1 ["B", "kB", "MB", "GB", "TB", "PB", "EB"]
where
  scaled (size unit : Nat) : List String → Bytes
    | [] => Numeral.decimal size
    | name :: larger =>
      if 1000 * unit ≤ size && !larger.isEmpty then scaled size (1000 * unit) larger
      else
        let tenths := (20 * size + unit) / (2 * unit)
        let number :=
          if unit = 1 then Numeral.decimal size
          else if tenths < 100 then
            Numeral.decimal (tenths / 10) ++ utf8 "." ++ Numeral.decimal (tenths % 10)
          else Numeral.decimal ((tenths + 5) / 10)
        number ++ utf8 " " ++ utf8 name

def elapsedText (milliseconds : Nat) : Bytes := Numeral.decimal milliseconds ++ utf8 "ms"

def Notice.shown (elapsed size : Bytes) : Notice → Bytes
  | .lines text => text
  | .timing text => Layout.line (text ++ elapsed)
  | .compacted path => Layout.line (path ++ utf8 ": compacted to " ++ size)
  | .fileSize _ =>
    Layout.line (utf8 "  " ++ Layout.padRight 20 (utf8 "file size") ++ utf8 " " ++ size)

def Notice.measured? : Notice → Option Bytes
  | .compacted path => some path
  | .fileSize path => some path
  | _ => none

/-- The label of 16 random bytes: hexadecimal digits in five groups, marked as a random one. -/
def randomLabel (bytes : Bytes) : Bytes :=
  let at' (i : Nat) (b : UInt8) : UInt8 :=
    if i = 6 then (b &&& 0x0F) ||| 0x40 else if i = 8 then (b &&& 0x3F) ||| 0x80 else b
  let digits := (bytes.take 16).zipIdx.flatMap fun (b, i) => Numeral.hex 2 (at' i b).toNat
  let group (start length : Nat) : Bytes := (digits.drop start).take length
  Layout.join (utf8 "-") [group 0 8, group 8 4, group 12 4, group 16 4, group 20 12]

def Instant.sinceEpoch (seconds : Int) : Instant := ⟨daysBeforeYear 1970 * secondsPerDay + seconds⟩

end AsnLexis
