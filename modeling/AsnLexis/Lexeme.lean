import AsnLexis.Fault
import AsnLexis.Identifier
import AsnLexis.Keyword
import AsnLexis.Kind

/-! Lexemes: how far the item at the front of a text reaches, and what it is. Everything here reads
characters only; where they stand is the lexer's affair. Lengths count scalars. -/

namespace AsnLexis

namespace Trivia

/-- Length of a line comment behind its opening hyphens: through the next two hyphens, or up to the
line break. -/
def lineComment : List Char → Nat
  | [] => 0
  | c :: rest =>
    if isLineBreak c then 0
    else if c == '-' && rest.head? == some '-' then 2
    else lineComment rest + 1

/-- Length of what closes `depth` open block comments; none when the text ends first. Openers and
closers are read from left to right and do not overlap. -/
def blockComment : Nat → List Char → Option Nat
  | 0, _ => some 0
  | _ + 1, [] => none
  | depth + 1, '/' :: '*' :: rest => (blockComment (depth + 2) rest).map (· + 2)
  | depth + 1, '*' :: '/' :: rest => (blockComment depth rest).map (· + 2)
  | depth + 1, _ :: rest => (blockComment (depth + 1) rest).map (· + 1)

inductive Item where
  | none
  | length (n : Nat)
  | unclosed
  deriving DecidableEq, Repr

def item : List Char → Item
  | '-' :: '-' :: rest => .length (lineComment rest + 2)
  | '/' :: '*' :: rest =>
    match blockComment 1 rest with
    | some n => .length (n + 2)
    | none => .unclosed
  | c :: _ => if isWhitespace c then .length 1 else .none
  | [] => .none

inductive Gap where
  | closed (length : Nat)
  /-- So many scalars of trivia, then a block comment that is never closed. -/
  | unclosed (length : Nat)
  deriving DecidableEq, Repr

def Gap.after (n : Nat) : Gap → Gap
  | closed m => closed (n + m)
  | unclosed m => unclosed (n + m)

def gap (cs : List Char) : Gap :=
  match item cs with
  | .none => .closed 0
  | .unclosed => .unclosed 0
  | .length 0 => .closed 0
  | .length (n + 1) =>
    match cs with
    | [] => .closed 0
    | _ :: rest => (gap (rest.drop n)).after (n + 1)
termination_by cs.length
decreasing_by simp only [List.length_drop, List.length_cons]; omega

end Trivia

namespace Lexeme

/-- Length of the rest of a word: up to a boundary or to the opening of a line comment. -/
def word : List Char → Nat
  | [] => 0
  | c :: rest =>
    if isBoundary c then 0
    else if c == '-' && rest.head? == some '-' then 0
    else word rest + 1

def digits (cs : List Char) : Nat := (cs.takeWhile isDigit).length

def startsWithDigit (cs : List Char) : Bool := cs.head?.any isDigit

def fraction : List Char → Nat
  | '.' :: rest => if startsWithDigit rest then digits rest + 1 else 0
  | _ => 0

def exponentValue : List Char → Nat
  | '-' :: rest => if startsWithDigit rest then digits rest + 1 else 0
  | rest => digits rest

def exponent : List Char → Nat
  | c :: rest =>
    if (c == 'e' || c == 'E') && exponentValue rest != 0 then exponentValue rest + 1 else 0
  | [] => 0

/-- Length of a quoted text behind its opening quote, the closing one included; none when it is
never closed. Two quotes in a row are one quote of the text. -/
def quoted : List Char → Option Nat
  | [] => none
  | '"' :: '"' :: rest => (quoted rest).map (· + 2)
  | '"' :: _ => some 1
  | _ :: rest => (quoted rest).map (· + 1)

def upToApostrophe (cs : List Char) : Option (List Char) :=
  if cs.contains '\'' then some (cs.takeWhile (· != '\'')) else none

def radixKind (contents : List Char) (radix : Option Char) : Kind :=
  let marks := contents.filter (!isWhitespace ·)
  match radix with
  | some 'B' => if marks.all (fun c => c == '0' || c == '1') then .bString else .unknown
  | some 'H' => if marks.all isHexDigit then .hString else .unknown
  | _ => .unknown

def isRadix (c : Option Char) : Bool := c == some 'B' || c == some 'H'

inductive Reading where
  | plain (kind : Kind)
  | literal
  | word (id : Identifier)
  /-- A word that is no identifier, with the index of the scalar that spoils it. -/
  | badWord (index : Nat) (flaw : IdentifierFlaw)
  | malformed (fault : Fault)
  | fatal (fault : Fault)
  deriving DecidableEq, Repr

/-- A lexeme: how many scalars it has behind the first one, and what it is. -/
structure Front where
  more : Nat
  reading : Reading
  deriving DecidableEq, Repr

def readWord (p : Profile) (c : Char) (rest : List Char) : Front :=
  let n := word rest
  match p.check (c :: rest.take n) with
  | .ok id => ⟨n, .word id⟩
  | .error (i, flaw) => ⟨n, .badWord i flaw⟩

/-- A number. Only 0 itself may have the digit 0 in front. -/
def readNumber (c : Char) (rest : List Char) : Front :=
  let whole := digits rest
  let part := fraction (rest.drop whole)
  let power := exponent (rest.drop (whole + part))
  ⟨whole + part + power,
    if c == '0' && whole != 0 then .malformed .malformedNumber
    else if part + power = 0 then .plain .number
    else .plain .realNumber⟩

def readQuoted (rest : List Char) : Front :=
  match quoted rest with
  | some n => ⟨n, .literal⟩
  | none => ⟨rest.length, .fatal .unterminatedString⟩

/-- A binary or hexadecimal string; the letter behind the closing apostrophe is part of it. -/
def readRadix (rest : List Char) : Front :=
  match upToApostrophe rest with
  | none => ⟨rest.length, .fatal .unterminatedString⟩
  | some contents =>
    let letter := (rest.drop (contents.length + 1)).head?
    let kind := radixKind contents letter
    ⟨contents.length + 1 + (if isRadix letter then 1 else 0),
      if kind == .unknown then .malformed .malformedString else .plain kind⟩

def readForeign (rest : List Char) : Front :=
  ⟨(rest.takeWhile isForeignSymbol).length, .malformed .unknownPunctuation⟩

def read (p : Profile) (c : Char) (rest : List Char) : Front :=
  if c == '"' then readQuoted rest
  else if c == '\'' then readRadix rest
  else if isDigit c then readNumber c rest
  else if isHyphen c && c != hyphenMinus then ⟨0, .fatal .unexpectedCharacter⟩
  else if p.isStart c || (0x80 ≤ c.toNat && isIdentifierContinue c) then readWord p c rest
  else if isPunctuation c then
    match Kind.operator? (c :: rest) with
    | some (spelling, kind) => ⟨spelling.length - 1, .plain kind⟩
    | none => ⟨0, .fatal .unexpectedCharacter⟩
  else if isForeignSymbol c then readForeign rest
  else ⟨0, .fatal .unexpectedCharacter⟩

end Lexeme

end AsnLexis
