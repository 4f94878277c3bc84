import AsnLexis.Unicode.XidStart
import AsnLexis.Unicode.XidContinue
import AsnLexis.Unicode.Uppercase
import AsnLexis.Unicode.Lowercase

/-! The classes of scalars that ASN.1 text is read by. -/

namespace AsnLexis

def isAsciiLetter (c : Char) : Bool := ('a' ≤ c && c ≤ 'z') || ('A' ≤ c && c ≤ 'Z')

def isDigit (c : Char) : Bool := '0' ≤ c && c ≤ '9'

/-- A digit of a hexadecimal string; small letters are none. -/
def isHexDigit (c : Char) : Bool := isDigit c || ('A' ≤ c && c ≤ 'F')

def isLineBreak (c : Char) : Bool := c == '\n' || c == '\x0B' || c == '\x0C' || c == '\r'

def isSpacing (c : Char) : Bool := c == ' ' || c == '\t' || c == '\u00A0'

def isWhitespace (c : Char) : Bool := isSpacing c || isLineBreak c

def isXidStart (c : Char) : Bool :=
  if c.toNat < 0x80 then isAsciiLetter c else Unicode.xidStart.has c

def isXidContinue (c : Char) : Bool :=
  if c.toNat < 0x80 then isAsciiLetter c || isDigit c || c == '_'
  else Unicode.xidStart.has c || Unicode.xidContinueOnly.has c

def hyphenMinus : Char := '-'

/-- Hyphen-minus, U+2010 or U+2011; inside identifiers they are one character. -/
def isHyphen (c : Char) : Bool := c == hyphenMinus || c == '\u2010' || c == '\u2011'

def isIdentifierStart (c : Char) : Bool := c == '$' || c == '_' || isXidStart c

def isIdentifierContinue (c : Char) : Bool := c == '$' || isHyphen c || isXidContinue c

def isUppercase (c : Char) : Bool := Unicode.uppercase.has c

def isLowercase (c : Char) : Bool := Unicode.lowercase.has c

def isPunctuation (c : Char) : Bool := "\x7b\x7d<>,.()[]-:=;@|!^&*/".toList.contains c

def isForeignSymbol (c : Char) : Bool := "#%+?\\`~".toList.contains c

def isBoundary (c : Char) : Bool :=
  isWhitespace c
    || (c.toNat < 0x80 && !(isAsciiLetter c || isDigit c || c == '$' || c == '_' || c == '-'))

def scalarOfNumber? (n : Int) : Option Char :=
  if 0 ≤ n && (n < 0xD800 || (0xDFFF < n && n < 0x110000)) then some (Char.ofNat n.toNat) else none

theorem scalarOfNumber?_toNat (c : Char) : scalarOfNumber? c.toNat = some c := by
  have bound : c.toNat < 0xD800 ∨ 0xDFFF < c.toNat ∧ c.toNat < 0x110000 := c.valid
  have inside : 0 ≤ (c.toNat : Int)
      ∧ ((c.toNat : Int) < 0xD800 ∨ 0xDFFF < (c.toNat : Int) ∧ (c.toNat : Int) < 0x110000) := by
    omega
  rw [scalarOfNumber?, if_pos (by simpa using inside), Int.toNat_natCast, Char.ofNat_toNat]

/-- Stands for the end of a text where a scalar is asked for by its number. -/
def endNumber : Int := -1

end AsnLexis
