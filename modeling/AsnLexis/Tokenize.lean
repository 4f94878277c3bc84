import AsnLexis.Lexer

/-! Tokenizing a whole source unit: scan after scan up to the end of the input or to the first fatal
error. -/

namespace AsnLexis

namespace Lexer

@[simp] theorem rest_note (l : Lexer) (s : Severity) (m : Bytes) (i j : Nat) :
    (l.note s m i j).rest = l.rest := rfl

@[simp] theorem final_note (l : Lexer) (s : Severity) (m : Bytes) (i j : Nat) :
    (l.note s m i j).final = l.final := rfl

theorem rest_take (l : Lexer) (c : Char) (lexeme : List Char) (front : Lexeme.Front)
    (going : (l.take c lexeme front).2.final = none) :
    (l.take c lexeme front).2.rest = l.rest := by
  unfold take at going ⊢
  split at going <;> simp_all [emit, fail, report, trace]

theorem next_nil {l : Lexer} (ended : l.rest = []) : l.next = l.finish := by
  rw [next, current, ended]
  rfl

theorem next_cons {l : Lexer} {head : Char} {rest : List Char} (front : l.rest = head :: rest) :
    l.next = take (l.setAnchor.forward ((Lexeme.read l.profile head rest).more + 1)) head
      (head :: rest.take (Lexeme.read l.profile head rest).more)
      (Lexeme.read l.profile head rest) := by
  have here : scalarOfNumber? l.current = some head := by
    rw [current, front]
    exact scalarOfNumber?_toNat head
  rw [next, here, front]
  rfl

theorem next_shortens (l : Lexer) (going : l.next.2.final = none) :
    l.next.2.rest.length < l.rest.length := by
  cases front : l.rest with
  | nil =>
      rw [next_nil front] at going
      simp [finish, trace] at going
  | cons c rest =>
      rw [next_cons front] at going ⊢
      rw [rest_take _ _ _ _ going]
      simp only [forward, setAnchor, front, List.length_drop, List.length_cons]
      omega

theorem scan_shortens (l : Lexer) (going : l.scan.2.final = none) :
    l.scan.2.rest.length < l.rest.length := by
  unfold scan at going ⊢
  split at going
  · simp_all
  · split at going
    · simp [failOpen, fail] at going
    · have := next_shortens _ going
      simp [forward] at this ⊢
      omega

def scanAll (l : Lexer) : List Scanned × Lexer :=
  match _step : l.scan with
  | (scanned, after) =>
    if _going : after.final = none then
      let (more, last) := scanAll after
      (scanned :: more, last)
    else ([scanned], after)
termination_by l.rest.length
decreasing_by
  have := scan_shortens l
  simp_all

end Lexer

def Scanned.token? : Scanned → Option Token
  | .token t => some t
  | .fatal _ => none

/-- What tokenizing a source unit gives. There is no source when the input is not well-formed
UTF-8. -/
structure Tokenized where
  name : Bytes
  source : Option Source
  tokens : List Token
  diagnostics : List Diagnostic
  literals : LiteralTable
  fatal : Option Error
  log : List LogRecord

namespace Tokenized

def malformed (name : Bytes) (settings : Settings) (e : Utf8.Malformed) : Tokenized where
  name := name
  source := none
  tokens := []
  diagnostics := [.ofError (.encoding e) ⟨e.offset, e.offset + 1, 0, 0⟩]
  literals := {}
  fatal := some (.encoding e)
  log := [Lexer.unreadable settings e]

def ofScan (scanned : List Scanned) (l : Lexer) : Tokenized where
  name := l.name
  source := some l.source
  tokens := scanned.filterMap Scanned.token?
  diagnostics := l.diagnostics.toList
  literals := l.literals
  fatal := match l.final with
    | some (.fatal e) => some (.lexical e)
    | _ => none
  log := l.log.toList

/-- The text that spans refer to, which is the whole input when it was not decoded. -/
def text (r : Tokenized) (input : Bytes) : Bytes :=
  match r.source with
  | some source => source.text
  | none => input

end Tokenized

/-- Tokenizes `input`. An input that is not decoded is reported under `name`. -/
def tokenize (name : Bytes) (settings : Settings) (input : Bytes) : Tokenized :=
  match Source.read input with
  | .error e => .malformed name settings e
  | .ok source =>
    let (scanned, l) := (Lexer.start settings source).scanAll
    .ofScan scanned l

end AsnLexis
