import AsnLexis.Identifier
import AsnLexis.Kind
import AsnLexis.Source

/-! Tokens. -/

namespace AsnLexis

/-- A token. Its text is the canonical form for an identifier or a keyword and the lexeme as written
for all else. `lead` belongs to identifiers and keywords, and `handle` to literals, the first of
which has handle 1; it is 0 on every other token. -/
structure Token where
  kind : Kind
  text : Bytes
  span : Span
  lead : LeadCase := .lower
  handle : Nat := 0
  deriving DecidableEq, Repr

namespace Token

def isLiteral (t : Token) : Bool := t.kind == .literal

def identifier? (t : Token) : Option Identifier :=
  if t.kind == .identifier || t.kind == .keyword then some ⟨t.text, t.lead⟩ else none

end Token

end AsnLexis
