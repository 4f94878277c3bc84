import AsnLexis.Fault
import AsnLexis.Source
import AsnLexis.Text.Layout
import AsnLexis.Text.Quoted

/-! Errors. An error names what went wrong, may wrap the errors that caused it, and so is a tree;
its code, and whether it stops a scan, are read off the faults anywhere in the tree. -/

namespace AsnLexis

inductive Reason where
  | fault (f : Fault)
  | other (text : Bytes)
  deriving DecidableEq, Repr

def Reason.message : Reason → Bytes
  | fault f => f.message
  | other text => text

/-- An error at a span of the source. `scalar` is the number of an unexpected character and 0 when
there is none to name; `text` is the lexeme at fault, if any. -/
structure LexError where
  reason : Reason
  span : Span
  scalar : Nat := 0
  text : Bytes := []
  deriving DecidableEq, Repr

/-- A candidate that is no identifier, and the offset of the scalar at fault, as the candidate
counts it. -/
structure IdentifierError where
  offset : Int
  text : Bytes
  reason : Bytes
  deriving DecidableEq, Repr

structure LiteralError where
  reason : Reason
  handle : Nat
  span : Span
  deriving DecidableEq, Repr

structure InternalError where
  reason : Reason
  handle : Nat
  deriving DecidableEq, Repr

structure IriError where
  offset : Nat
  reason : Bytes
  deriving DecidableEq, Repr

inductive Error where
  | plain (reason : Reason)
  | encoding (e : Utf8.Malformed)
  | lexical (e : LexError)
  | identifier (e : IdentifierError)
  | literal (e : LiteralError) (cause : Option Error)
  | internal (e : InternalError)
  | iri (e : IriError)
  | file (operation path : Bytes) (cause : Error)
  | database (operation : Bytes) (cause : Error)
  | scanFatal (name : Bytes) (scan : Int) (cause : Error)
  | wrap (text : Bytes) (cause : Error)
  | join (causes : List Error)

def Span.located (span : Span) (message : Bytes) : Bytes :=
  Numeral.decimal span.line ++ utf8 ":" ++ Numeral.decimal span.column ++ utf8 ": " ++ message

namespace LexError

def detail (e : LexError) : Bytes :=
  if e.reason = .fault .unexpectedCharacter then
    e.reason.message ++ utf8 " " ++ Numeral.codePoint e.scalar
  else if e.text ≠ [] then e.reason.message ++ utf8 " " ++ Quoted.text e.text
  else e.reason.message

def message (e : LexError) : Bytes := e.span.located e.detail

end LexError

def IdentifierError.message (e : IdentifierError) : Bytes :=
  Fault.invalidIdentifier.message ++ utf8 " " ++ Quoted.text e.text ++ utf8 ": " ++ e.reason

def InternalError.message (e : InternalError) : Bytes :=
  utf8 "internal error: handle " ++ Numeral.decimal e.handle ++ utf8 ": " ++ e.reason.message

def IriError.message (e : IriError) : Bytes :=
  utf8 "offset " ++ Numeral.decimal e.offset ++ utf8 ": " ++ e.reason

def encodingMessage (e : Utf8.Malformed) : Bytes :=
  Numeral.decimal e.offset ++ utf8 ": " ++ Fault.invalidUtf8.message ++ utf8 ": byte 0x"
    ++ Numeral.hex 2 e.byte.toNat

mutual

def Error.message : Error → Bytes
  | .plain reason => reason.message
  | .encoding e => encodingMessage e
  | .lexical e => e.message
  | .identifier e => e.message
  | .literal e cause => e.span.located (e.reason.message ++ causeMessage cause)
  | .internal e => e.message
  | .iri e => e.message
  | .file operation path cause =>
    operation ++ utf8 " " ++ path ++ utf8 ": " ++ cause.message
  | .database operation cause => utf8 "database " ++ operation ++ utf8 ": " ++ cause.message
  | .scanFatal name _ cause => utf8 "scan " ++ name ++ utf8 ": " ++ cause.message
  | .wrap text cause => text ++ utf8 ": " ++ cause.message
  | .join causes => Layout.join Layout.newline (messages causes)

def causeMessage : Option Error → Bytes
  | none => []
  | some cause => utf8 ": " ++ cause.message

def messages : List Error → List Bytes
  | [] => []
  | e :: rest => e.message :: messages rest

end

def Reason.faults : Reason → List Fault
  | fault f => [f]
  | other _ => []

mutual

def Error.faults : Error → List Fault
  | .plain reason => reason.faults
  | .encoding _ => [.invalidUtf8]
  | .lexical e => e.reason.faults
  | .identifier _ => [.invalidIdentifier]
  | .literal e cause => e.reason.faults ++ causeFaults cause
  | .internal e => e.reason.faults
  | .iri _ => []
  | .file _ _ cause => cause.faults
  | .database _ cause => cause.faults
  | .scanFatal _ _ cause => cause.faults
  | .wrap _ cause => cause.faults
  | .join causes => faultsOfAll causes

def causeFaults : Option Error → List Fault
  | none => []
  | some cause => cause.faults

def faultsOfAll : List Error → List Fault
  | [] => []
  | e :: rest => e.faults ++ faultsOfAll rest

end

mutual

def Error.hasInternal : Error → Bool
  | .internal _ => true
  | .literal _ cause => causeHasInternal cause
  | .file _ _ cause => cause.hasInternal
  | .database _ cause => cause.hasInternal
  | .scanFatal _ _ cause => cause.hasInternal
  | .wrap _ cause => cause.hasInternal
  | .join causes => anyHasInternal causes
  | _ => false

def causeHasInternal : Option Error → Bool
  | none => false
  | some cause => cause.hasInternal

def anyHasInternal : List Error → Bool
  | [] => false
  | e :: rest => e.hasInternal || anyHasInternal rest

end

def Error.has (e : Error) (f : Fault) : Bool := e.faults.contains f

inductive Code where
  | encoding
  | unterminatedComment
  | unterminatedString
  | unexpectedCharacter
  | invalidIdentifier
  | malformedNumber
  | malformedString
  | unknownPunctuation
  | invalidOidIri
  | internal
  | unknown
  deriving DecidableEq, Repr

def Code.name : Code → String
  | encoding => "ENCODING"
  | unterminatedComment => "UNTERMINATED_COMMENT"
  | unterminatedString => "UNTERMINATED_STRING"
  | unexpectedCharacter => "UNEXPECTED_CHARACTER"
  | invalidIdentifier => "INVALID_IDENTIFIER"
  | malformedNumber => "MALFORMED_NUMBER"
  | malformedString => "MALFORMED_STRING"
  | unknownPunctuation => "UNKNOWN_PUNCTUATION"
  | invalidOidIri => "INVALID_OID_IRI"
  | internal => "INTERNAL"
  | unknown => "UNKNOWN"

def Fault.code? : Fault → Option Code
  | invalidUtf8 => some .encoding
  | unterminatedComment => some .unterminatedComment
  | unterminatedString => some .unterminatedString
  | unexpectedCharacter => some .unexpectedCharacter
  | invalidIdentifier => some .invalidIdentifier
  | malformedNumber => some .malformedNumber
  | malformedString => some .malformedString
  | unknownPunctuation => some .unknownPunctuation
  | invalidOidIri => some .invalidOidIri
  | _ => none

namespace Error

/-- Code of an error: that of the first fault, in the order of `Fault.all`, which the tree holds. -/
def code (e : Error) : Code :=
  match (Fault.all.filter e.has).findSome? Fault.code? with
  | some code => code
  | none => if e.hasInternal then .internal else .unknown

def isFatal (e : Error) : Bool := e.faults.any Fault.stopsScan

/-- Codes that a failed job is stored with: where the failure arose, and for a scan that stopped
early the code of what stopped it. Only the root of the tree counts. -/
def jobCode : Error → String
  | .file .. => "FILE"
  | .database .. => "DATABASE"
  | .scanFatal _ _ cause => cause.code.name
  | _ => "UNKNOWN"

def ofText (text : Bytes) : Error := .plain (.other text)

/-- The error with a known fault's text is that fault. -/
def ofName (text : Bytes) : Reason :=
  match Fault.all.find? (·.message == text) with
  | some f => .fault f
  | none => .other text

end Error

end AsnLexis
