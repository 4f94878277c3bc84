import AsnLexis.Text.Numeral

/-! Places in a YAML text, walking over it, and what can be wrong with it. -/

namespace AsnLexis.Yaml

/-- How many scalars, how many line breaks, and how many scalars of the line stand before a
place. -/
structure Mark where
  index : Nat
  line : Nat
  column : Nat
  deriving DecidableEq, Repr

structure Problem where
  line : Option Nat
  place : Mark
  text : Bytes
  deriving DecidableEq, Repr

namespace Problem

/-- Lines from 0, the first of them shown as no line. -/
def shownLine (context place : Mark) : Option Nat :=
  if context.line != 0 then some context.line
  else if place.line != 0 then some place.line
  else none

def scanning (context place : Mark) (text : String) : Problem :=
  ⟨(shownLine context place).map (· + 1), place, utf8 text⟩

/-- Tokens that are no node, in a construct that began at `context`. Here the line shown is the one
before. -/
def parsing (context place : Mark) (text : String) : Problem :=
  ⟨shownLine context place, place, utf8 text⟩

def plain (text : Bytes) : Problem := ⟨none, ⟨0, 0, 0⟩, text⟩

def message (p : Problem) : Bytes :=
  utf8 "yaml: "
    ++ (match p.line with
      | none => []
      | some line => utf8 "line " ++ Numeral.decimal line ++ utf8 ": ")
    ++ p.text

end Problem

def isBlank (c : Char) : Bool := c == ' ' || c == '\t'

def isBreak (c : Char) : Bool :=
  c == '\r' || c == '\n' || c == '\u0085' || c == '\u2028' || c == '\u2029'

def isWord (c : Char) : Bool := c.isAlphanum || c == '_' || c == '-'

def isGap : Option Char → Bool
  | none => true
  | some c => isBlank c || isBreak c

/-- A place in a text and the text behind it. It is fresh if a line break was passed and nothing but
blanks since. -/
structure Cursor where
  mark : Mark
  fresh : Bool
  rest : List Char

namespace Cursor

def ofText (text : List Char) : Cursor := ⟨⟨0, 0, 0⟩, false, text⟩

def peek (k : Cursor) : Option Char := k.rest.head?

def ahead (k : Cursor) (count : Nat) : Option Char := k.rest[count]?

def advance (k : Cursor) (count : Nat) : Cursor :=
  let passed := k.rest.take count
  ⟨⟨k.mark.index + passed.length, k.mark.line, k.mark.column + passed.length⟩,
    k.fresh && passed.all isBlank, k.rest.drop count⟩

def takeWhile (k : Cursor) (fits : Char → Bool) : List Char × Cursor :=
  let taken := k.rest.takeWhile fits
  (taken, k.advance taken.length)

def skipWhile (k : Cursor) (fits : Char → Bool) : Cursor := (k.takeWhile fits).2

def skipBlanks (k : Cursor) : Cursor := k.skipWhile isBlank

def skipLine (k : Cursor) : Cursor := k.skipWhile fun c => !isBreak c

def onNextLine (k : Cursor) (count : Nat) : Cursor :=
  ⟨⟨k.mark.index + count, k.mark.line + 1, 0⟩, true, k.rest.drop count⟩

/-- Takes a line break. It counts as a line feed, unless it is one of the two separators. -/
def takeBreak (k : Cursor) : List Char × Cursor :=
  match k.rest with
  | '\r' :: '\n' :: _ => (['\n'], k.onNextLine 2)
  | c :: _ =>
    if c == '\u2028' || c == '\u2029' then ([c], k.onNextLine 1)
    else if isBreak c then (['\n'], k.onNextLine 1)
    else ([], k)
  | [] => ([], k)

def skipBreak (k : Cursor) : Cursor := k.takeBreak.2

def skipSpace : Nat → Cursor → Cursor
  | 0, k => k
  | count + 1, k =>
    match k.peek with
    | none => k
    | some c =>
      if isBlank c then skipSpace count (k.advance 1)
      else if isBreak c then skipSpace count k.skipBreak
      else k

def isAtTriple (k : Cursor) (c : Char) : Bool :=
  k.mark.column == 0 && k.rest.take 3 == [c, c, c] && isGap (k.ahead 3)

def isAtDocumentStart (k : Cursor) : Bool := k.isAtTriple '-'

def isAtDocumentEnd (k : Cursor) : Bool := k.isAtTriple '.'

def isAtDocumentMark (k : Cursor) : Bool := k.isAtDocumentStart || k.isAtDocumentEnd

def scanning (k : Cursor) (context : Mark) (text : String) : Problem :=
  .scanning context k.mark text

end Cursor

end AsnLexis.Yaml
