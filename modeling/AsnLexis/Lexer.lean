import AsnLexis.Lexeme
import AsnLexis.Literal.Table
import AsnLexis.Log

/-! The lexer: a place in a source text, and what was found before it. Each scan returns the next
token. The first fatal error and the end of the input are final: from then on every scan returns
them again and nothing changes. -/

namespace AsnLexis

inductive Scanned where
  | token (t : Token)
  | fatal (e : LexError)
  deriving DecidableEq, Repr

structure Settings where
  name : Bytes
  profile : Profile := .unicode

def Settings.rename (s : Settings) (name : Bytes) : Except Error Settings :=
  if name.isEmpty then .error (.ofText (utf8 "name: empty")) else .ok { s with name := name }

/-- The state of a lexer. `rest` is what is still to be read and `here` where it starts; `anchor` is
where the latest token starts. Every fault is counted in `faults` and every token but the end of the
input in `tokens`. -/
structure Lexer where
  name : Bytes
  profile : Profile
  source : Source
  rest : List Char
  here : Position := .first
  anchor : Position := .first
  literals : LiteralTable := {}
  diagnostics : Array Diagnostic := #[]
  log : Array LogRecord := #[]
  tokens : Nat := 0
  faults : Nat := 0
  final : Option Scanned := none

namespace Lexer

def note (l : Lexer) (severity : Severity) (message : Bytes) (line column : Nat) : Lexer :=
  { l with log := l.log.push (.placed severity message l.name line column) }

def trace (l : Lexer) (message : Bytes) : Lexer :=
  l.note .debug message l.anchor.line l.anchor.column

def start (settings : Settings) (source : Source) : Lexer :=
  let l : Lexer :=
    { name := settings.name, profile := settings.profile, source := source, rest := source.chars }
  if source.bom then l.trace (utf8 "stripped byte order mark") else l

def unreadable (settings : Settings) (e : Utf8.Malformed) : LogRecord :=
  ⟨.error, utf8 "lexer: read source", [("file", settings.name), ("error", encodingMessage e)]⟩

/-- The number of the current scalar, or that of the end. -/
def current (l : Lexer) : Int := l.rest.head?.elim endNumber (·.toNat)

def forward (l : Lexer) (n : Nat) : Lexer :=
  { l with rest := l.rest.drop n, here := l.here.advance l.rest n }

def setAnchor (l : Lexer) : Lexer := { l with anchor := l.here }

def span (l : Lexer) : Span := l.anchor.spanTo l.here

def report (l : Lexer) (e : Error) (span : Span) : Lexer :=
  let l := { l with
    diagnostics := l.diagnostics.push (.ofError e span)
    faults := l.faults + 1 }
  l.note .error e.message span.line span.column

def fail (l : Lexer) (e : LexError) : Scanned × Lexer :=
  let l := { l with
    final := some (.fatal e)
    diagnostics := l.diagnostics.push (.ofError (.lexical e) e.span)
    faults := l.faults + 1 }
  (.fatal e, l.note .error (utf8 "fatal: " ++ e.message) e.span.line e.span.column)

def emit (l : Lexer) (t : Token) : Scanned × Lexer :=
  let l := { l with tokens := l.tokens + 1 }
  (.token t, l.trace (utf8 t.kind.name ++ utf8 " " ++ Quoted.text t.text))

/-- The end of the input: an empty token that is returned from now on. -/
def finish (l : Lexer) : Scanned × Lexer :=
  let l := l.setAnchor
  let t : Token := { kind := .endOfInput, text := [], span := l.span }
  let l := { l with final := some (.token t) }
  (.token t, l.trace (utf8 "end of input: " ++ Numeral.decimal l.tokens ++ utf8 " tokens, "
    ++ Numeral.decimal l.faults ++ utf8 " errors"))

/-- Takes the lexeme `c` and `front.more` scalars behind it, `after` being the lexer past it. -/
def take (after : Lexer) (c : Char) (lexeme : List Char) (front : Lexeme.Front) : Scanned × Lexer :=
  let text := Utf8.encode lexeme
  let span := after.span
  match front.reading with
  | .plain kind => after.emit { kind, text, span }
  | .literal =>
    let after := { after with literals := after.literals.add text span }
    after.emit { kind := .literal, text, span, handle := after.literals.size }
  | .word id =>
    let kind := if isKeyword id.text then Kind.keyword else .identifier
    after.emit { kind, text := id.text, span, lead := id.lead }
  | .badWord index flaw =>
    let place := after.anchor.advance (lexeme ++ after.rest) index
    let error := .identifier ⟨place.offset, text, flaw.message⟩
    (after.report error (place.spanTo after.here)).emit { kind := .unknown, text, span }
  | .malformed fault =>
    let error := .lexical { reason := .fault fault, span, text }
    (after.report error span).emit { kind := .unknown, text, span }
  | .fatal fault =>
    let scalar := if fault = .unexpectedCharacter then c.toNat else 0
    after.fail { reason := .fault fault, span, scalar }

/-- The token at the current place, in front of which there is no trivia. -/
def next (l : Lexer) : Scanned × Lexer :=
  match scalarOfNumber? l.current with
  | none => l.finish
  | some c =>
    let behind := l.rest.tail
    let front := Lexeme.read l.profile c behind
    take (l.setAnchor.forward (front.more + 1)) c (c :: behind.take front.more) front

def failOpen (l : Lexer) : Scanned × Lexer :=
  let l := l.setAnchor.forward l.rest.length
  l.fail { reason := .fault .unterminatedComment, span := l.span }

def scan (l : Lexer) : Scanned × Lexer :=
  match l.final with
  | some scanned => (scanned, l)
  | none =>
    match Trivia.gap l.rest with
    | .unclosed n => (l.forward n).failOpen
    | .closed n => (l.forward n).next

end Lexer

end AsnLexis
