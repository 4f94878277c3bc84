import AsnLexis.CharClass
import AsnLexis.Text.Quoted
import AsnLexis.Unicode.NormalForm

/-! Identifiers: their canonical form, the profiles that say which scalars they are made of, and the
check of a candidate against a profile. -/

namespace AsnLexis

abbrev NormalForm := List Char → List Char

def plainHyphen (c : Char) : Char := if isHyphen c then hyphenMinus else c

/-- The normal form with plain hyphens: what two spellings of one identifier share. -/
def NormalForm.normalize (form : NormalForm) (cs : List Char) : List Char :=
  (form cs).map plainHyphen

def isAscii (text : Bytes) : Bool := text.all (· < 0x80)

/-- Canonical form of a text. ASCII is canonical as it stands. -/
def NormalForm.canonical (form : NormalForm) (text : Bytes) : Bytes :=
  if isAscii text then text else Utf8.encode (form.normalize (Utf8.decodeLossy text))

inductive LeadCase where
  | lower
  | upper
  deriving DecidableEq, Repr

def LeadCase.name : LeadCase → String
  | lower => "LowerLead"
  | upper => "UpperLead"

def leadCase (cs : List Char) : LeadCase :=
  match cs.head? with
  | some c => if isUppercase c then .upper else .lower
  | none => .lower

def isAllUppercase (cs : List Char) : Bool := cs.all (!isLowercase ·)

def leadCaseOf (text : Bytes) : LeadCase := leadCase (Utf8.decodeLossy text)

def isAllUppercaseText (text : Bytes) : Bool := isAllUppercase (Utf8.decodeLossy text)

structure Identifier where
  text : Bytes
  lead : LeadCase
  deriving DecidableEq, Repr

structure Profile where
  asciiOnly : Bool
  form : NormalForm

namespace Profile

def unicode : Profile := ⟨false, Unicode.nfc⟩

def ascii : Profile := ⟨true, Unicode.nfc⟩

def ofStrict (strict : Bool) : Profile := if strict then ascii else unicode

def isStart (p : Profile) (c : Char) : Bool :=
  !(p.asciiOnly && 0x80 ≤ c.toNat) && isIdentifierStart c

def isContinue (p : Profile) (c : Char) : Bool :=
  !(p.asciiOnly && 0x80 ≤ c.toNat) && isIdentifierContinue c

end Profile

inductive IdentifierFlaw where
  | empty
  | badStart
  | notAllowed (c : Char)
  | adjacentHyphens
  | trailingHyphen
  deriving DecidableEq, Repr

def IdentifierFlaw.message : IdentifierFlaw → Bytes
  | empty => utf8 "empty identifier"
  | badStart => utf8 "must start with a letter, '$' or '_'"
  | notAllowed c =>
    utf8 "character " ++ Quoted.scalar c ++ utf8 " (" ++ Numeral.codePoint c.toNat
      ++ utf8 ") is not allowed in an identifier"
  | adjacentHyphens => utf8 "must not contain two adjacent hyphens"
  | trailingHyphen => utf8 "must not end with a hyphen"

def adjacentHyphen? : List Char → Option Nat
  | a :: b :: rest =>
    if a == hyphenMinus && b == hyphenMinus then some 1
    else (adjacentHyphen? (b :: rest)).map (· + 1)
  | _ => none

namespace Profile

/-- The first rule that a normalized text breaks, and the index where it does. The rules are checked
in turn: the start, the scalars that follow, adjacent hyphens, a hyphen at the end. -/
def flaw? (p : Profile) : List Char → Option (Nat × IdentifierFlaw)
  | [] => some (0, .empty)
  | c :: rest =>
    if !p.isStart c then some (0, .badStart)
    else
      match rest.findIdx? (!p.isContinue ·) with
      | some i => some (i + 1, .notAllowed (rest.getD i c))
      | none =>
        match adjacentHyphen? (c :: rest) with
        | some i => some (i, .adjacentHyphens)
        | none =>
          if (c :: rest).getLast? == some hyphenMinus then some (rest.length, .trailingHyphen)
          else none

/-- Checks a candidate. A flaw carries the index of the candidate's scalar it is found at; when
normalization changes the number of scalars that is the first one. -/
def check (p : Profile) (candidate : List Char) : Except (Nat × IdentifierFlaw) Identifier :=
  if candidate.isEmpty then .error (0, .empty)
  else
    let normal := p.form.normalize candidate
    match p.flaw? normal with
    | some (i, flaw) => .error (if normal.length = candidate.length then i else 0, flaw)
    | none => .ok ⟨Utf8.encode normal, leadCase normal⟩

end Profile

end AsnLexis
