import AsnLexis.Text.Utf8

/-! Written forms of whole numbers. -/

namespace AsnLexis.Numeral

def ofDigits (digits : List Char) : Bytes := digits.map (fun c => UInt8.ofNat c.toNat)

def decimal (n : Nat) : Bytes := ofDigits (Nat.toDigits 10 n)

def signed (n : Int) : Bytes :=
  if n < 0 then utf8 "-" ++ decimal n.natAbs else decimal n.natAbs

def hex (width n : Nat) : Bytes :=
  let digits := ofDigits (Nat.toDigits 16 n)
  List.replicate (width - digits.length) (0x30 : UInt8) ++ digits

def upperDigit (b : UInt8) : UInt8 := if 0x61 ≤ b && b ≤ 0x66 then b - 0x20 else b

def codePoint (n : Nat) : Bytes := utf8 "U+" ++ (hex 4 n).map upperDigit

def groupThousands (digits : Bytes) : Bytes :=
  if digits.length ≤ 3 then digits
  else groupThousands (digits.take (digits.length - 3)) ++ utf8 ","
    ++ digits.drop (digits.length - 3)
termination_by digits.length
decreasing_by simp only [List.length_take]; omega

def commas (n : Nat) : Bytes := groupThousands (decimal n)

end AsnLexis.Numeral
