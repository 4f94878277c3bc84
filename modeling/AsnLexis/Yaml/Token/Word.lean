import AsnLexis.Yaml.Token

/-! Anchors, references, tags and directives. -/

namespace AsnLexis.Yaml

namespace Cursor

def anchorName (k : Cursor) : Except Problem (Bytes × Cursor) :=
  let (name, after) := (k.advance 1).takeWhile isWord
  let ends := isGap after.peek || after.peek.any ("?:,]\x7d%@\x60".toList.contains ·)
  if name.isEmpty || !ends then
    .error (after.scanning k.mark "did not find expected alphabetic or numeric character")
  else .ok (Utf8.encode name, after)

def isUri (c : Char) : Bool := isWord c || ";/?:@&=+$,.!~*'()[]%".toList.contains c

def hexValue? (c : Char) : Option Nat :=
  if '0' ≤ c && c ≤ '9' then some (c.toNat - '0'.toNat)
  else if 'a' ≤ c && c ≤ 'f' then some (c.toNat - 'a'.toNat + 10)
  else if 'A' ≤ c && c ≤ 'F' then some (c.toNat - 'A'.toNat + 10)
  else none

def octet? (k : Cursor) : Option UInt8 :=
  match k.rest with
  | '%' :: a :: b :: _ => do
    let high ← hexValue? a
    let low ← hexValue? b
    return UInt8.ofNat (high * 16 + low)
  | _ => none

def octetCount? (b : UInt8) : Option Nat :=
  if b < 0x80 then some 1
  else if 0xC0 ≤ b && b < 0xE0 then some 2
  else if 0xE0 ≤ b && b < 0xF0 then some 3
  else if 0xF0 ≤ b && b < 0xF8 then some 4
  else none

def tailOctets (context : Mark) : Nat → Cursor → Except Problem (Bytes × Cursor)
  | 0, k => .ok ([], k)
  | count + 1, k =>
    match k.octet? with
    | none => .error (k.scanning context "did not find URI escaped octet")
    | some b =>
      if Utf8.isTail b then do
        let (more, k) ← tailOctets context count (k.advance 3)
        return (b :: more, k)
      else .error (k.scanning context "found an incorrect trailing UTF-8 octet")

def octets (context : Mark) (k : Cursor) : Except Problem (Bytes × Cursor) :=
  match k.octet? with
  | none => .error (k.scanning context "did not find URI escaped octet")
  | some b =>
    match octetCount? b with
    | none => .error (k.scanning context "found an incorrect leading UTF-8 octet")
    | some count => do
      let (more, k) ← tailOctets context (count - 1) (k.advance 3)
      return (b :: more, k)

def uriFrom (context : Mark) : Nat → Cursor → Except Problem (Bytes × Cursor)
  | 0, k => .ok ([], k)
  | count + 1, k =>
    match k.peek with
    | none => .ok ([], k)
    | some c =>
      if !isUri c then .ok ([], k)
      else do
        let (first, k) ←
          if c == '%' then octets context k else .ok (Utf8.encodeChar c, k.advance 1)
        let (more, k) ← uriFrom context count k
        return (first ++ more, k)

/-- Reads a tag whose text begins with `head`, the exclamation mark of which does not count. -/
def uri (k : Cursor) (context : Mark) (head : List Char) : Except Problem (Bytes × Cursor) := do
  let (text, after) ← uriFrom context k.rest.length k
  if head.isEmpty && text.isEmpty then
    .error (after.scanning context "did not find expected tag URI")
  else return (Utf8.encode (head.drop 1) ++ text, after)

def tagHandle (k : Cursor) (context : Mark) (inDirective : Bool) :
    Except Problem (List Char × Cursor) :=
  if k.peek != some '!' then .error (k.scanning context "did not find expected '!'")
  else
    let (word, after) := (k.advance 1).takeWhile isWord
    if after.peek == some '!' then .ok ('!' :: word ++ ['!'], after.advance 1)
    else if inDirective && !word.isEmpty then
      .error (after.scanning context "did not find expected '!'")
    else .ok ('!' :: word, after)

def verbatimTag (k : Cursor) : Except Problem (Sign × Cursor) := do
  let (suffix, after) ← (k.advance 2).uri k.mark []
  if after.peek == some '>' then return (.tag [] suffix, after.advance 1)
  else .error (after.scanning k.mark "did not find the expected '>'")

/-- Reads a tag with a handle, or behind a bare exclamation mark. That mark alone is a tag too. -/
def shortTag (k : Cursor) : Except Problem (Sign × Cursor) := do
  let (handle, after) ← k.tagHandle k.mark false
  if 1 < handle.length && handle.getLast? == some '!' then do
    let (suffix, after) ← after.uri k.mark []
    return (.tag (Utf8.encode handle) suffix, after)
  else do
    let (suffix, after) ← after.uri k.mark handle
    if suffix.isEmpty then return (.tag [] (utf8 "!"), after)
    else return (.tag (utf8 "!") suffix, after)

def tag (k : Cursor) : Except Problem (Sign × Cursor) := do
  let (sign, after) ← if k.ahead 1 == some '<' then k.verbatimTag else k.shortTag
  if isGap after.peek then return (sign, after)
  else .error (after.scanning k.mark "did not find expected whitespace or line break")

def decimalValue (digits : List Char) : Nat :=
  digits.foldl (fun n c => n * 10 + (c.toNat - '0'.toNat)) 0

def versionNumber (k : Cursor) (context : Mark) : Except Problem (Nat × Cursor) :=
  let (digits, after) := k.takeWhile Char.isDigit
  if digits.isEmpty then .error (k.scanning context "did not find expected version number")
  else if 2 < digits.length then
    .error ((k.advance 2).scanning context "found extremely long version number")
  else .ok (decimalValue digits, after)

def versionDirective (k : Cursor) (context : Mark) : Except Problem (Sign × Cursor) := do
  let (major, k) ← k.skipBlanks.versionNumber context
  if k.peek != some '.' then
    .error (k.scanning context "did not find expected digit or '.' character")
  else do
    let (minor, k) ← (k.advance 1).versionNumber context
    return (.versionDirective major minor, k)

def tagDirective (k : Cursor) (context : Mark) : Except Problem (Sign × Cursor) := do
  let (handle, k) ← k.skipBlanks.tagHandle context true
  if !k.peek.any isBlank then .error (k.scanning context "did not find expected whitespace")
  else do
    let (lead, k) ← k.skipBlanks.uri context []
    if isGap k.peek then return (.tagDirective (Utf8.encode handle) lead, k)
    else .error (k.scanning context "did not find expected whitespace or line break")

def endLine (k : Cursor) (context : Mark) : Except Problem Cursor :=
  let k := k.skipBlanks
  let k := if k.peek == some '#' then k.skipLine else k
  if k.peek.all isBreak then .ok k.skipBreak
  else .error (k.scanning context "did not find expected comment or line break")

def directive (k : Cursor) : Except Problem (Sign × Cursor) := do
  let start := k.mark
  let (name, after) := (k.advance 1).takeWhile isWord
  if name.isEmpty then .error (after.scanning start "could not find expected directive name")
  else if !isGap after.peek then
    .error (after.scanning start "found unexpected non-alphabetical character")
  else do
    let (sign, after) ←
      if name == "YAML".toList then after.versionDirective start
      else if name == "TAG".toList then after.tagDirective start
      else .error (after.scanning start "found unknown directive name")
    return (sign, ← after.endLine start)

end Cursor

end AsnLexis.Yaml
