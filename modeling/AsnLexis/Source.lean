import AsnLexis.CharClass
import AsnLexis.Text.Utf8

/-! Source units: decoded text with the place of every scalar in it. Offsets count bytes, columns
count scalars, and a CR LF pair is one line break. -/

namespace AsnLexis

/-- A place in a source text; line and column count from 1. -/
structure Position where
  offset : Nat
  line : Nat
  column : Nat
  deriving DecidableEq, Repr, Inhabited

structure Span where
  start : Nat
  stop : Nat
  line : Nat
  column : Nat
  deriving DecidableEq, Repr, Inhabited

structure Scalar where
  char : Char
  place : Position
  deriving DecidableEq, Repr

namespace Position

def first : Position := ⟨0, 1, 1⟩

def past (p : Position) (c : Char) (next : Option Char) : Position :=
  if isLineBreak c && !(c == '\r' && next == some '\n') then
    ⟨p.offset + Utf8.width c, p.line + 1, 1⟩
  else ⟨p.offset + Utf8.width c, p.line, p.column + 1⟩

def advance (p : Position) : List Char → Nat → Position
  | c :: rest, n + 1 => (p.past c rest.head?).advance rest n
  | _, _ => p

def scalars (p : Position) : List Char → List Scalar
  | [] => []
  | c :: rest => ⟨c, p⟩ :: (p.past c rest.head?).scalars rest

def spanTo (start stop : Position) : Span := ⟨start.offset, stop.offset, start.line, start.column⟩

end Position

/-- A decoded source unit. A byte order mark in front is not part of the text. -/
structure Source where
  bom : Bool
  text : Bytes
  chars : List Char
  deriving DecidableEq, Repr

namespace Source

def byteOrderMark : Bytes := [0xEF, 0xBB, 0xBF]

def stripMark (input : Bytes) : Bool × Bytes :=
  if byteOrderMark.isPrefixOf input then (true, input.drop byteOrderMark.length) else (false, input)

def read (input : Bytes) : Except Utf8.Malformed Source :=
  let (bom, text) := stripMark input
  (Utf8.decode text).map (⟨bom, text, ·⟩)

def scalars (s : Source) : List Scalar := Position.first.scalars s.chars

def stop (s : Source) : Position := Position.first.advance s.chars s.chars.length

def at? (s : Source) (i : Nat) : Option Scalar := s.scalars[i]?

def slice (s : Source) (start stop : Nat) : Bytes := (s.text.drop start).take (stop - start)

def sliceSpan (s : Source) (span : Span) : Bytes := s.slice span.start span.stop

end Source

end AsnLexis
