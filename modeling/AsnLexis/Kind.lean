import AsnLexis.Text.Utf8

/-! Kinds of tokens, and the punctuation marks with their spellings. -/

namespace AsnLexis

/-- Kinds of tokens. `unknown` is a lexeme that a diagnostic explains, `literal` a quoted text that
is a character string or an OID-IRI, as its use decides. -/
inductive Kind where
  | unknown
  | ampersand | assignment | asterisk | atSign | caret | colon | comma | dash | dot | dotDot
  | ellipsis | equals | exclamation | greater | leftBrace | leftBracket | leftParen | leftVersion
  | less | pipe | rightBrace | rightBracket | rightParen | rightVersion | semicolon | slash
  | xmlEndTag | xmlSelfClose
  | bString | literal | hString | identifier | keyword | number | realNumber
  | endOfInput
  deriving DecidableEq, Repr, Inhabited

namespace Kind

def names : List (Kind × String) := [
  (unknown, "UNKNOWN"), (ampersand, "AMPERSAND"), (assignment, "ASSIGNMENT"),
  (asterisk, "ASTERISK"), (atSign, "AT"), (caret, "CARET"), (colon, "COLON"), (comma, "COMMA"),
  (dash, "DASH"), (dot, "DOT"), (dotDot, "DOTDOT"), (ellipsis, "ELLIPSIS"), (equals, "EQUALS"),
  (exclamation, "EXCLAMATION"), (greater, "GREATER"), (leftBrace, "LEFTBRACE"),
  (leftBracket, "LEFTBRACKET"), (leftParen, "LEFTPAREN"), (leftVersion, "LEFTVERSION"),
  (less, "LESS"), (pipe, "PIPE"), (rightBrace, "RIGHTBRACE"), (rightBracket, "RIGHTBRACKET"),
  (rightParen, "RIGHTPAREN"), (rightVersion, "RIGHTVERSION"), (semicolon, "SEMICOLON"),
  (slash, "SLASH"), (xmlEndTag, "XMLENDTAG"), (xmlSelfClose, "XMLSELFCLOSE"),
  (bString, "BString"), (literal, "CharacterOrOidIriLiteral"), (hString, "HString"),
  (identifier, "Identifier"), (keyword, "Keyword"), (number, "Number"),
  (realNumber, "RealNumber"), (endOfInput, "EndOfInput")]

def name (k : Kind) : String := (names.lookup k).getD "Kind(?)"

/-- The punctuation marks and their spellings. Among marks with a common beginning the longer one
comes first, so the first that matches is the longest. -/
def operators : List (List Char × Kind) := [
  ([':', ':', '='], assignment), ([':'], colon),
  (['.', '.', '.'], ellipsis), (['.', '.'], dotDot), (['.'], dot),
  (['[', '['], leftVersion), (['['], leftBracket),
  ([']', ']'], rightVersion), ([']'], rightBracket),
  (['<', '/'], xmlEndTag), (['<'], less),
  (['/', '>'], xmlSelfClose), (['/'], slash),
  (['&'], ampersand), (['*'], asterisk), (['@'], atSign), (['^'], caret), ([','], comma),
  (['-'], dash), (['='], equals), (['!'], exclamation), (['>'], greater), (['{'], leftBrace),
  (['('], leftParen), (['|'], pipe), (['}'], rightBrace), ([')'], rightParen),
  ([';'], semicolon)]

def isPunctuation (k : Kind) : Bool := (operators.map Prod.snd).contains k

def operator? (cs : List Char) : Option (List Char × Kind) :=
  operators.find? (·.1.isPrefixOf cs)

end Kind

/-- A kind by number: one of the kinds, or a number that names none. -/
inductive KindNumber where
  | named (k : Kind)
  | unnamed (n : Int)
  deriving DecidableEq, Repr

namespace KindNumber

def ofInt (n : Int) : KindNumber :=
  if 0 ≤ n then
    match Kind.names[n.toNat]? with
    | some (k, _) => named k
    | none => unnamed n
  else unnamed n

def name : KindNumber → String
  | named k => k.name
  | unnamed _ => "Kind(?)"

def isPunctuation : KindNumber → Bool
  | named k => k.isPunctuation
  | unnamed _ => false

def isKind (token : Option KindNumber) (k : KindNumber) : Bool := token == some k

def isOneOf (token : Option KindNumber) (ks : List KindNumber) : Bool := ks.any (isKind token)

def isWord (token : Option KindNumber) : Bool :=
  isOneOf token [named .identifier, named .keyword]

end KindNumber

end AsnLexis
