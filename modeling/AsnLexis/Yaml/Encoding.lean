import AsnLexis.Text.Utf8

/-! The scalars of a YAML file: UTF-8, or UTF-16 behind a byte order mark. A file is read in blocks,
and a block with a fault gives nothing. -/

namespace AsnLexis.Yaml

/-- The scalars that can be read, and why there are no more if that is not the end. -/
structure Text where
  scalars : List Char
  fault : Option String

namespace Text

inductive Front where
  | nothing
  | scalar (c : Char) (width : Nat)
  | cut (reason : String)
  | bad (width : Nat) (reason : String)

def isAllowed (c : Char) : Bool :=
  let n := c.toNat
  n == 0x09 || n == 0x0A || n == 0x0D || (0x20 ≤ n && n ≤ 0x7E) || n == 0x85
    || (0xA0 ≤ n && n ≤ 0xD7FF) || (0xE000 ≤ n && n ≤ 0xFFFD) || 0x10000 ≤ n

def Front.ofCode (code width : Nat) : Front :=
  let c := Char.ofNat code
  if isAllowed c then .scalar c width else .bad width "control characters are not allowed"

def width8? (b : UInt8) : Option Nat :=
  if b < 0x80 then some 1
  else if 0xC0 ≤ b && b < 0xE0 then some 2
  else if 0xE0 ≤ b && b < 0xF0 then some 3
  else if 0xF0 ≤ b && b < 0xF8 then some 4
  else none

def least8 : Nat → Nat
  | 2 => 0x80
  | 3 => 0x800
  | 4 => 0x10000
  | _ => 0

def leadBits (b : UInt8) : Nat → Nat
  | 1 => b.toNat
  | 2 => b.toNat % 0x20
  | 3 => b.toNat % 0x10
  | _ => b.toNat % 0x08

def front8 : Bytes → Front
  | [] => .nothing
  | b :: rest =>
    match width8? b with
    | none => .bad 1 "invalid leading UTF-8 octet"
    | some width =>
      let tail := rest.take (width - 1)
      if tail.length + 1 < width then .cut "incomplete UTF-8 octet sequence"
      else if !tail.all Utf8.isTail then .bad width "invalid trailing UTF-8 octet"
      else
        let code := tail.foldl (fun n b => n * 64 + b.toNat % 64) (leadBits b width)
        if code < least8 width then .bad width "invalid length of a UTF-8 sequence"
        else if (0xD800 ≤ code && code ≤ 0xDFFF) || 0x10FFFF < code then
          .bad width "invalid Unicode character"
        else .ofCode code width

def unit16 (bigEndian : Bool) (a b : UInt8) : Nat :=
  if bigEndian then a.toNat * 256 + b.toNat else b.toNat * 256 + a.toNat

def isHighUnit (n : Nat) : Bool := 0xD800 ≤ n && n < 0xDC00

def isLowUnit (n : Nat) : Bool := 0xDC00 ≤ n && n < 0xE000

def front16 (bigEndian : Bool) : Bytes → Front
  | [] => .nothing
  | [_] => .cut "incomplete UTF-16 character"
  | a :: b :: rest =>
    let unit := unit16 bigEndian a b
    if isLowUnit unit then .bad 2 "unexpected low surrogate area"
    else if isHighUnit unit then
      match rest with
      | c :: d :: _ =>
        let low := unit16 bigEndian c d
        if isLowUnit low then .ofCode (0x10000 + (unit - 0xD800) * 0x400 + (low - 0xDC00)) 4
        else .bad 4 "expected low surrogate area"
      | _ => .cut "incomplete UTF-16 surrogate pair"
    else .ofCode unit 2

def blockSize : Nat := 512

/-- Reads on with `room` bytes left in the block, whose scalars so far are `inBlock`, and `read`
before it; both have the last scalar first. The first number bounds the steps. -/
def readFrom (front : Bytes → Front) :
    Nat → Nat → List Char → List Char → Bytes → Text
  | 0, _, inBlock, read, _ => ⟨(inBlock ++ read).reverse, none⟩
  | steps + 1, room, inBlock, read, bytes =>
    match front bytes with
    | .nothing => ⟨(inBlock ++ read).reverse, none⟩
    | .cut reason => ⟨(inBlock ++ read).reverse, some reason⟩
    | .bad width reason => ⟨(if room < width then inBlock ++ read else read).reverse, some reason⟩
    | .scalar c width =>
      if room < width then
        readFrom front steps (blockSize - width) [c] (inBlock ++ read) (bytes.drop width)
      else readFrom front steps (room - width) (c :: inBlock) read (bytes.drop width)

def ofBytes (bytes : Bytes) : Text :=
  match bytes with
  | 0xFF :: 0xFE :: rest => readFrom (front16 false) (rest.length + 1) (blockSize - 2) [] [] rest
  | 0xFE :: 0xFF :: rest => readFrom (front16 true) (rest.length + 1) (blockSize - 2) [] [] rest
  | 0xEF :: 0xBB :: 0xBF :: rest => readFrom front8 (rest.length + 1) (blockSize - 3) [] [] rest
  | rest => readFrom front8 (rest.length + 1) blockSize [] [] rest

end Text

end AsnLexis.Yaml
