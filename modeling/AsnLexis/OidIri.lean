import AsnLexis.Text.Layout
import AsnLexis.Text.Quoted

/-! OID-IRI values: arcs set apart by solidi, absolute ones with a solidus in front. An arc is an
integer label, which is 0 or begins with another digit, or a label of unreserved characters that
neither begins nor ends with a hyphen. -/

namespace AsnLexis

structure Arc where
  label : Bytes
  integer : Bool
  deriving DecidableEq, Repr

structure OidIri where
  arcs : List Arc
  relative : Bool
  deriving DecidableEq, Repr

namespace OidIri

def solidus : UInt8 := 0x2F

def hyphen : UInt8 := 0x2D

def zero : UInt8 := 0x30

def text (iri : OidIri) : Bytes :=
  let labels := Layout.join [solidus] (iri.arcs.map Arc.label)
  if iri.relative || iri.arcs.isEmpty then labels else solidus :: labels

inductive Flaw where
  | noSolidus
  | leadingSolidus
  | emptyArc
  | notAllowed (c : Char)
  | leadingZero
  | leadingHyphen
  | trailingHyphen
  deriving DecidableEq, Repr

def Flaw.message : Flaw → Bytes
  | noSolidus => utf8 "must start with '/'"
  | leadingSolidus => utf8 "relative OID-IRI must not start with '/'"
  | emptyArc => utf8 "empty arc"
  | notAllowed c => utf8 "character " ++ Quoted.scalar c ++ utf8 " is not allowed in an arc"
  | leadingZero => utf8 "integer arc has a leading zero"
  | leadingHyphen => utf8 "arc must not start with '-'"
  | trailingHyphen => utf8 "arc must not end with '-'"

structure Failure where
  offset : Nat
  flaw : Flaw
  deriving DecidableEq, Repr

def labelRanges : List (Nat × Nat) := [
  (0xA0, 0xD7FF), (0xF900, 0xFDCF), (0xFDF0, 0xFFEF), (0x10000, 0x1FFFD), (0x20000, 0x2FFFD),
  (0x30000, 0x3FFFD), (0x40000, 0x4FFFD), (0x50000, 0x5FFFD), (0x60000, 0x6FFFD),
  (0x70000, 0x7FFFD), (0x80000, 0x8FFFD), (0x90000, 0x9FFFD), (0xA0000, 0xAFFFD),
  (0xB0000, 0xBFFFD), (0xC0000, 0xCFFFD), (0xD0000, 0xDFFFD), (0xE1000, 0xEFFFD)]

def isUnreserved (c : Char) : Bool :=
  ('a' ≤ c && c ≤ 'z') || ('A' ≤ c && c ≤ 'Z') || ('0' ≤ c && c ≤ '9')
    || c == '-' || c == '.' || c == '_' || c == '~'
    || labelRanges.any (fun (first, last) => first ≤ c.toNat && c.toNat ≤ last)

/-- The first character that no label may hold. A stray byte is read as U+FFFD, which is one. -/
def firstReserved? (offset : Nat) : List Piece → Option Failure
  | [] => none
  | piece :: rest =>
    if isUnreserved piece.shown then firstReserved? (offset + piece.width) rest
    else some ⟨offset, .notAllowed piece.shown⟩

def isDecimal (b : UInt8) : Bool := 0x30 ≤ b && b ≤ 0x39

def parseArc (offset : Nat) (label : Bytes) : Except Failure Arc :=
  if label.isEmpty then .error ⟨offset, .emptyArc⟩
  else
    match firstReserved? offset (Utf8.pieces label) with
    | some failure => .error failure
    | none =>
      if label.all isDecimal then
        if 1 < label.length && label.head? == some zero then .error ⟨offset, .leadingZero⟩
        else .ok ⟨label, true⟩
      else if label.head? == some hyphen then .error ⟨offset, .leadingHyphen⟩
      else if label.getLast? == some hyphen then
        .error ⟨offset + label.length - 1, .trailingHyphen⟩
      else .ok ⟨label, false⟩

/-- Reads labels that stand one after the other, the first at `offset`, a solidus between two. -/
def parseArcs (offset : Nat) : List Bytes → Except Failure (List Arc)
  | [] => .ok []
  | label :: rest =>
    match parseArc offset label with
    | .error failure => .error failure
    | .ok arc => (parseArcs (offset + label.length + 1) rest).map (arc :: ·)

def parse (text : Bytes) : Except Failure OidIri :=
  match text with
  | b :: rest =>
    if b == solidus then (parseArcs 1 (Layout.split solidus rest)).map (⟨·, false⟩)
    else .error ⟨0, .noSolidus⟩
  | [] => .error ⟨0, .noSolidus⟩

def parseRelative (text : Bytes) : Except Failure OidIri :=
  if text.head? == some solidus then .error ⟨0, .leadingSolidus⟩
  else (parseArcs 0 (Layout.split solidus text)).map (⟨·, true⟩)

end OidIri

end AsnLexis
