import AsnLexis.Error
import AsnLexis.Literal.Contents
import AsnLexis.OidIri
import AsnLexis.Token

/-! The literals of one source unit. Each has a handle, 1 for the first, and can be resolved once,
to a character string or to an OID-IRI; the outcome is final, be it a value or an error. -/

namespace AsnLexis

inductive Target where
  | characterString
  | oidIri
  | relativeOidIri
  deriving DecidableEq, Repr

namespace Target

/-- Targets by number; a number that names none asks for a character string. -/
def ofInt (n : Int) : Target :=
  if n = 1 then oidIri else if n = 2 then relativeOidIri else characterString

def name : Target → String
  | characterString => "CharacterString"
  | oidIri => "OID-IRI"
  | relativeOidIri => "RELATIVE-OID-IRI"

def ofOidIri (oidIri : Bool) : Target := if oidIri then .oidIri else .characterString

end Target

namespace Literal

inductive Meaning where
  | characterString (text : Bytes)
  | oidIri (iri : OidIri)
  | relativeOidIri (iri : OidIri)
  deriving DecidableEq, Repr

def Meaning.kindName : Meaning → String
  | characterString _ => "CharacterString"
  | oidIri _ => "OidIri"
  | relativeOidIri _ => "RelativeOidIri"

def Meaning.text : Meaning → Bytes
  | characterString text => text
  | oidIri iri => iri.text
  | relativeOidIri iri => iri.text

structure Value where
  handle : Nat
  span : Span
  meaning : Meaning
  deriving DecidableEq, Repr

def iriError (handle : Nat) (span : Span) (failure : OidIri.Failure) : Error :=
  let cause : Error := .iri ⟨failure.offset, failure.flaw.message⟩
  .literal ⟨.fault .invalidOidIri, handle, span⟩ (some cause)

def interpret (handle : Nat) (raw : Bytes) (span : Span) : Target → Except Error Value
  | .characterString => .ok ⟨handle, span, .characterString (characterString raw)⟩
  | .oidIri =>
    match OidIri.parse (contents raw) with
    | .ok iri => .ok ⟨handle, span, .oidIri iri⟩
    | .error failure => .error (iriError handle span failure)
  | .relativeOidIri =>
    match OidIri.parseRelative (contents raw) with
    | .ok iri => .ok ⟨handle, span, .relativeOidIri iri⟩
    | .error failure => .error (iriError handle span failure)

structure Entry where
  raw : Bytes
  span : Span
  outcome : Option (Except Error Value) := none

end Literal

structure LiteralTable where
  entries : Array Literal.Entry := #[]

namespace LiteralTable

open Literal

def size (t : LiteralTable) : Nat := t.entries.size

/-- Records a literal; its handle is the new size. -/
def add (t : LiteralTable) (raw : Bytes) (span : Span) : LiteralTable :=
  ⟨t.entries.push ⟨raw, span, none⟩⟩

/-- The entry with a handle. Handle 0 is never given out. -/
def entry? (t : LiteralTable) (handle : Nat) : Option Entry :=
  if handle = 0 then none else t.entries[handle - 1]?

def pending (t : LiteralTable) : List Nat :=
  (t.entries.toList.zipIdx.filter (·.1.outcome.isNone)).map (·.2 + 1)

def misuse (fault : Fault) (handle : Nat) : Error := .internal ⟨.fault fault, handle⟩

/-- Fixes the outcome of a literal. Nothing changes when the handle is unknown, when `raw` is not
the recorded text, or when the outcome is fixed already. -/
def resolveAs (t : LiteralTable) (handle : Nat) (raw : Bytes) (target : Target) :
    Except Error Value × LiteralTable :=
  match t.entry? handle with
  | none => (.error (misuse .unknownHandle handle), t)
  | some entry =>
    if raw ≠ entry.raw then (.error (misuse .handleMismatch handle), t)
    else if entry.outcome.isSome then (.error (misuse .resolvedTwice handle), t)
    else
      let outcome := interpret handle entry.raw entry.span target
      (outcome, ⟨t.entries.modify (handle - 1) fun e => { e with outcome := some outcome }⟩)

def resolve (t : LiteralTable) (handle : Nat) (raw : Bytes) (oidIri : Bool) :
    Except Error Value × LiteralTable :=
  t.resolveAs handle raw (Target.ofOidIri oidIri)

def resolveToken (t : LiteralTable) (token : Option Token) (oidIri : Bool) :
    Except Error Value × LiteralTable :=
  match token with
  | some token =>
    if token.isLiteral then t.resolve token.handle token.text oidIri
    else (.error (misuse .unknownHandle 0), t)
  | none => (.error (misuse .unknownHandle 0), t)

def value (t : LiteralTable) (handle : Nat) : Except Error Value :=
  match t.entry? handle with
  | none => .error (misuse .unknownHandle handle)
  | some entry => entry.outcome.getD (.error (misuse .unresolved handle))

end LiteralTable

end AsnLexis
