import AsnLexis.Text.Utf8

/-! What can be wrong with a source text, with a literal, or with a call on the literal table. -/

namespace AsnLexis

inductive Fault where
  | invalidUtf8
  | unterminatedComment
  | unterminatedString
  | unexpectedCharacter
  | invalidIdentifier
  | malformedNumber
  | malformedString
  | unknownPunctuation
  | invalidOidIri
  | resolvedTwice
  | unknownHandle
  | handleMismatch
  | unresolved
  deriving DecidableEq, Repr

namespace Fault

def all : List Fault := [
  invalidUtf8, unterminatedComment, unterminatedString, unexpectedCharacter, invalidIdentifier,
  malformedNumber, malformedString, unknownPunctuation, invalidOidIri, resolvedTwice,
  unknownHandle, handleMismatch, unresolved]

def name : Fault → String
  | invalidUtf8 => "invalid utf-8"
  | unterminatedComment => "unterminated comment"
  | unterminatedString => "unterminated string"
  | unexpectedCharacter => "unexpected character"
  | invalidIdentifier => "invalid identifier"
  | malformedNumber => "malformed number"
  | malformedString => "malformed string"
  | unknownPunctuation => "unknown punctuation"
  | invalidOidIri => "invalid OID-IRI"
  | resolvedTwice => "literal resolved twice"
  | unknownHandle => "unknown literal handle"
  | handleMismatch => "literal text does not match handle"
  | unresolved => "literal not resolved"

def message (f : Fault) : Bytes := utf8 f.name

def stopsScan (f : Fault) : Bool :=
  [invalidUtf8, unterminatedComment, unterminatedString, unexpectedCharacter].contains f

end Fault

end AsnLexis
