/-! UTF-8. A text is a list of bytes, well formed or not. Every text splits in one way into pieces:
encoded scalars, in their shortest form only, and stray bytes that belong to none. Decoding,
replacement and quoting all read the pieces. -/

namespace AsnLexis

abbrev Bytes := List UInt8

/-- An encoded scalar, or one byte that is part of no encoded scalar. -/
inductive Piece where
  | scalar (c : Char)
  | stray (b : UInt8)
  deriving DecidableEq, Repr

namespace Utf8

def encodeCode (n : Nat) : Bytes :=
  if n < 0x80 then [UInt8.ofNat n]
  else if n < 0x800 then [UInt8.ofNat (0xC0 + n / 64), UInt8.ofNat (0x80 + n % 64)]
  else if n < 0x10000 then
    [UInt8.ofNat (0xE0 + n / 4096), UInt8.ofNat (0x80 + n / 64 % 64), UInt8.ofNat (0x80 + n % 64)]
  else
    [UInt8.ofNat (0xF0 + n / 262144), UInt8.ofNat (0x80 + n / 4096 % 64),
      UInt8.ofNat (0x80 + n / 64 % 64), UInt8.ofNat (0x80 + n % 64)]

def encodeChar (c : Char) : Bytes := encodeCode c.toNat

def encode (cs : List Char) : Bytes := cs.flatMap encodeChar

def width (c : Char) : Nat :=
  if c.toNat < 0x80 then 1 else if c.toNat < 0x800 then 2 else if c.toNat < 0x10000 then 3 else 4

def isTail (b : UInt8) : Bool := 0x80 ≤ b && b ≤ 0xBF

def pair? (a b : UInt8) : Option Char :=
  if 0xC2 ≤ a && a ≤ 0xDF && isTail b then
    some (Char.ofNat ((a.toNat - 0xC0) * 64 + (b.toNat - 0x80)))
  else none

/-- Three bytes that encode a scalar from U+0800 on; the surrogates have no encoding. -/
def triple? (a b c : UInt8) : Option Char :=
  if 0xE0 ≤ a && a ≤ 0xEF && isTail b && isTail c
      && (a != 0xE0 || 0xA0 ≤ b) && (a != 0xED || b ≤ 0x9F) then
    some (Char.ofNat ((a.toNat - 0xE0) * 4096 + (b.toNat - 0x80) * 64 + (c.toNat - 0x80)))
  else none

def quadruple? (a b c d : UInt8) : Option Char :=
  if 0xF0 ≤ a && a ≤ 0xF4 && isTail b && isTail c && isTail d
      && (a != 0xF0 || 0x90 ≤ b) && (a != 0xF4 || b ≤ 0x8F) then
    some (Char.ofNat ((a.toNat - 0xF0) * 262144 + (b.toNat - 0x80) * 4096
      + (c.toNat - 0x80) * 64 + (d.toNat - 0x80)))
  else none

def front? : Bytes → Option (Char × Bytes)
  | [] => none
  | a :: r =>
    if a < 0x80 then some (Char.ofNat a.toNat, r) else
      match r with
      | [] => none
      | b :: r =>
        match pair? a b with
        | some c => some (c, r)
        | none =>
          match r with
          | [] => none
          | c :: r =>
            match triple? a b c with
            | some c => some (c, r)
            | none =>
              match r with
              | [] => none
              | d :: r =>
                match quadruple? a b c d with
                | some c => some (c, r)
                | none => none

theorem front?_length {bs rest : Bytes} {c : Char} (found : front? bs = some (c, rest)) :
    rest.length < bs.length := by
  unfold front? at found
  repeat' split at found
  all_goals grind

/-- The pieces of a text: a byte that begins no encoded scalar is stray, and the next piece starts
right after it. -/
def pieces (bs : Bytes) : List Piece :=
  match _found : front? bs with
  | some (c, rest) => .scalar c :: pieces rest
  | none =>
    match bs with
    | [] => []
    | b :: rest => .stray b :: pieces rest
termination_by bs.length
decreasing_by
  · exact front?_length _found
  · simp

end Utf8

namespace Piece

def bytes : Piece → Bytes
  | scalar c => Utf8.encodeChar c
  | stray b => [b]

def width : Piece → Nat
  | scalar c => Utf8.width c
  | stray _ => 1

def shown : Piece → Char
  | scalar c => c
  | stray _ => '\uFFFD'

end Piece

namespace Utf8

/-- Where the well-formed part of a text ends, and the byte that stands there. -/
structure Malformed where
  offset : Nat
  byte : UInt8
  deriving DecidableEq, Repr

def scalarsFrom (offset : Nat) : List Piece → Except Malformed (List Char)
  | [] => .ok []
  | .stray b :: _ => .error ⟨offset, b⟩
  | .scalar c :: rest => (scalarsFrom (offset + width c) rest).map (c :: ·)

def decode (bs : Bytes) : Except Malformed (List Char) := scalarsFrom 0 (pieces bs)

def decodeLossy (bs : Bytes) : List Char := (pieces bs).map Piece.shown

end Utf8

def utf8 (s : String) : Bytes := Utf8.encode s.toList

end AsnLexis
