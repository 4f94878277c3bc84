import AsnLexis.Text.Utf8

/-! Bytes written with 64 characters, four for three bytes, the last four filled up with equals
signs. Line breaks do not count. -/

namespace AsnLexis.Base64

def value? (b : UInt8) : Option Nat :=
  if 0x41 ≤ b && b ≤ 0x5A then some (b.toNat - 0x41)
  else if 0x61 ≤ b && b ≤ 0x7A then some (b.toNat - 0x61 + 26)
  else if 0x30 ≤ b && b ≤ 0x39 then some (b.toNat - 0x30 + 52)
  else if b == 0x2B then some 62
  else if b == 0x2F then some 63
  else none

def triple (a b c d : Nat) : Bytes :=
  let n := ((a * 64 + b) * 64 + c) * 64 + d
  [UInt8.ofNat (n / 65536), UInt8.ofNat (n / 256 % 256), UInt8.ofNat (n % 256)]

def decodeGroups : Bytes → Option Bytes
  | [] => some []
  | [a, b, 0x3D, 0x3D] => do
    let a ← value? a
    let b ← value? b
    return (triple a b 0 0).take 1
  | [a, b, c, 0x3D] => do
    let a ← value? a
    let b ← value? b
    let c ← value? c
    return (triple a b c 0).take 2
  | a :: b :: c :: d :: rest => do
    let a ← value? a
    let b ← value? b
    let c ← value? c
    let d ← value? d
    return triple a b c d ++ (← decodeGroups rest)
  | _ => none

def decode? (text : Bytes) : Option Bytes :=
  decodeGroups (text.filter fun b => b != 0x0A && b != 0x0D)

end AsnLexis.Base64
