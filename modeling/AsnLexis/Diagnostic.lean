import AsnLexis.Error

/-! Diagnostics: errors at a span of the source, with help for the reader, and how they are
printed. -/

namespace AsnLexis

/-- A severity on an open scale: -4 is debug, 0 information, 4 a warning, 8 an error. -/
structure Severity where
  level : Int
  deriving DecidableEq, Repr

namespace Severity

def error : Severity := ⟨8⟩

def debug : Severity := ⟨-4⟩

def named (name : String) (above : Int) : Bytes :=
  if above = 0 then utf8 name
  else utf8 name ++ (if 0 < above then utf8 "+" else []) ++ Numeral.signed above

/-- The named level at or below, and how far above it the severity is. -/
def name (s : Severity) : Bytes :=
  if s.level < 0 then named "DEBUG" (s.level + 4)
  else if s.level < 4 then named "INFO" s.level
  else if s.level < 8 then named "WARN" (s.level - 4)
  else named "ERROR" (s.level - 8)

def lowerAscii (b : UInt8) : UInt8 := if 0x41 ≤ b && b ≤ 0x5A then b + 0x20 else b

def lowerName (s : Severity) : Bytes := s.name.map lowerAscii

end Severity

structure Diagnostic where
  severity : Severity
  code : Bytes
  message : Bytes
  span : Span
  notes : List Bytes
  fatal : Bool
  deriving DecidableEq, Repr

/-- A message without the position: the diagnostic has a span of its own. -/
def LexError.diagnosticMessage (e : LexError) : Bytes :=
  if e.scalar ≠ 0 then e.reason.message ++ utf8 " " ++ Numeral.codePoint e.scalar
  else if e.text ≠ [] then e.reason.message ++ utf8 " " ++ Quoted.text e.text
  else e.reason.message

def Error.diagnosticMessage : Error → Bytes
  | .lexical e => e.diagnosticMessage
  | .literal e cause => e.reason.message ++ causeMessage cause
  | e => e.message

def Code.notes : Code → List Bytes
  | invalidIdentifier =>
    [utf8 "identifiers start with a letter, '$' or '_' and may not end with or double a hyphen"]
  | malformedNumber => [utf8 "numbers other than 0 may not start with 0"]
  | unterminatedComment => [utf8 "block comments nest; every /* needs a matching */"]
  | _ => []

namespace Diagnostic

def ofError (e : Error) (span : Span) : Diagnostic where
  severity := .error
  code := utf8 e.code.name
  message := e.diagnosticMessage
  span := span
  notes := e.code.notes
  fatal := e.isFatal

def ofLiteral? (e : Error) : Option Diagnostic :=
  match e with
  | .literal le _ => some (ofError e le.span)
  | _ => none

def isBreakByte (b : UInt8) : Bool := 0x0A ≤ b && b ≤ 0x0D

def lineAt (text : Bytes) (start : Nat) : Bytes :=
  if text.length < start then []
  else
    ((text.take start).reverse.takeWhile (!isBreakByte ·)).reverse
      ++ (text.drop start).takeWhile (!isBreakByte ·)

/-- What puts a caret under a column: a tab under a tab, a blank under all else. -/
def caretPadding (line : Bytes) (column : Nat) : Bytes :=
  ((Utf8.pieces line).take (column - 1)).map
    (fun piece => if piece == .scalar '\t' then (0x09 : UInt8) else 0x20)

def indent : Bytes := utf8 "    "

def print (d : Diagnostic) (name text : Bytes) : Bytes :=
  let shown := lineAt text d.span.start
  Layout.line (name ++ utf8 ":" ++ Numeral.decimal d.span.line ++ utf8 ":"
      ++ Numeral.decimal d.span.column ++ utf8 ": " ++ d.severity.lowerName ++ utf8 ": "
      ++ d.message ++ utf8 " [" ++ d.code ++ utf8 "]")
    ++ Layout.line (indent ++ shown)
    ++ Layout.line (indent ++ caretPadding shown d.span.column ++ utf8 "^")
    ++ d.notes.flatMap (fun note => Layout.line (indent ++ utf8 "note: " ++ note))

end Diagnostic

end AsnLexis
