import AsnLexis.Pipeline.Job
import AsnLexis.Proofs.Carets
import Mathlib

/-! Messages of errors and of the diagnostics that are made of them. A diagnostic has a place of its
own, so its message leaves out the place, but for one character it leaves out more: NUL, whose
number is also how an error says that it has no character to name. -/

namespace AsnLexis

structure Reported where
  error : Error
  span : Span
  ends : Bool

namespace Reported

def diagnostic (x : Reported) : Diagnostic := .ofError x.error x.span

def record (name : Bytes) (x : Reported) : LogRecord :=
  .placed .error ((if x.ends then utf8 "fatal: " else []) ++ x.error.message) name x.span.line
    x.span.column

/-- The errors that a lexer of `chars` reports. Only an unexpected character is named, and it is the
one that stands there. -/
inductive Arises (chars : List Char) : Reported → Prop
  | word (e : IdentifierError) (span : Span) : Arises chars ⟨.identifier e, span, false⟩
  | lexeme {fault : Fault} (other : fault ≠ .unexpectedCharacter) (span : Span) (text : Bytes)
      (ends : Bool) : Arises chars ⟨.lexical { reason := .fault fault, span, text }, span, ends⟩
  | character {i : Nat} {c : Char} (here : chars[i]? = some c) {span : Span}
      (place : span.place = Position.within chars i) :
      Arises chars
        ⟨.lexical { reason := .fault .unexpectedCharacter, span, scalar := c.toNat }, span, true⟩

end Reported

namespace Lexer

def errors (l : Lexer) : List LogRecord := l.log.toList.filter (·.severity = .error)

theorem errors_note_error (l : Lexer) (message : Bytes) (line column : Nat) :
    (l.note .error message line column).errors
      = l.errors ++ [.placed .error message l.name line column] := by
  simp [errors, note, LogRecord.placed]

theorem errors_trace (l : Lexer) (message : Bytes) : (l.trace message).errors = l.errors := by
  simp [errors, trace, note, LogRecord.placed, Severity.debug, Severity.error]

/-- These are the errors that a lexer of `chars` has reported, in their order: they make up its
diagnostics and the errors in its log, and a fatal error that it returns is one of them. -/
structure Accounts (l : Lexer) (chars : List Char) (reports : List Reported) : Prop where
  diagnostics : l.diagnostics.toList = reports.map Reported.diagnostic
  errors : l.errors = reports.map (Reported.record l.name)
  arise : ∀ x ∈ reports, x.Arises chars
  returned : ∀ e, l.final = some (.fatal e) → ⟨.lexical e, e.span, true⟩ ∈ reports

namespace Accounts

variable {l : Lexer} {chars : List Char} {reports : List Reported}

theorem trace (accounts : l.Accounts chars reports) (message : Bytes) :
    (l.trace message).Accounts chars reports :=
  ⟨accounts.diagnostics, (errors_trace l message).trans accounts.errors, accounts.arise,
    accounts.returned⟩

theorem emit (accounts : l.Accounts chars reports) (t : Token) :
    (l.emit t).2.Accounts chars reports :=
  trace (l := { l with tokens := l.tokens + 1 })
    ⟨accounts.diagnostics, accounts.errors, accounts.arise, accounts.returned⟩ _

theorem finish (accounts : l.Accounts chars reports) : l.finish.2.Accounts chars reports := by
  let last : Token := { kind := .endOfInput, text := [], span := l.setAnchor.span }
  refine trace (l := { l.setAnchor with final := some (.token last) }) ?_ _
  exact ⟨accounts.diagnostics, accounts.errors, accounts.arise, fun _ failed => by cases failed⟩

theorem forward (accounts : l.Accounts chars reports) (n : Nat) :
    (l.forward n).Accounts chars reports :=
  ⟨accounts.diagnostics, accounts.errors, accounts.arise, accounts.returned⟩

theorem setAnchor (accounts : l.Accounts chars reports) : l.setAnchor.Accounts chars reports :=
  ⟨accounts.diagnostics, accounts.errors, accounts.arise, accounts.returned⟩

theorem add (accounts : l.Accounts chars reports) {x : Reported} (arises : x.Arises chars)
    {m : Lexer} (name : m.name = l.name)
    (diagnostics : m.diagnostics = l.diagnostics.push x.diagnostic)
    (errors : m.errors = l.errors ++ [x.record l.name])
    (returned : ∀ e, m.final = some (.fatal e) → ⟨.lexical e, e.span, true⟩ ∈ reports ++ [x]) :
    m.Accounts chars (reports ++ [x]) where
  diagnostics := by
    rw [diagnostics, Array.toList_push, accounts.diagnostics, List.map_append, List.map_singleton]
  errors := by
    rw [errors, accounts.errors, name, List.map_append, List.map_singleton]
  arise := List.forall_mem_append.2 ⟨accounts.arise, List.forall_mem_singleton.2 arises⟩
  returned := returned

theorem report (accounts : l.Accounts chars reports) {e : Error} {span : Span}
    (arises : Reported.Arises chars ⟨e, span, false⟩) :
    (l.report e span).Accounts chars (reports ++ [⟨e, span, false⟩]) := by
  refine accounts.add arises rfl rfl (errors_note_error _ _ _ _) ?_
  intro e final
  exact List.mem_append_left _ (accounts.returned e final)

theorem fail (accounts : l.Accounts chars reports) {e : LexError}
    (arises : Reported.Arises chars ⟨.lexical e, e.span, true⟩) :
    (l.fail e).2.Accounts chars (reports ++ [⟨.lexical e, e.span, true⟩]) := by
  refine accounts.add arises rfl rfl (errors_note_error _ _ _ _) ?_
  rintro f ⟨⟩
  exact List.mem_append_right _ (List.mem_singleton_self _)

theorem take (accounts : l.Accounts chars reports) {i : Nat} {p : Profile} {c : Char}
    {rest : List Char} (anchored : l.anchor = Position.within chars i)
    (here : chars[i]? = some c) (lexeme : List Char) :
    ∃ more, (l.take c lexeme (Lexeme.read p c rest)).2.Accounts chars (reports ++ more) := by
  unfold Lexer.take
  generalize read : Lexeme.read p c rest = front
  have reads := congrArg Lexeme.Front.reading read
  -- What is reported is settled by the reading; only an unexpected character names a scalar.
  cases reading : front.reading with
  | plain kind => exact ⟨[], (List.append_nil reports).symm ▸ accounts.emit _⟩
  | literal =>
      have added : Accounts { l with literals := l.literals.add (Utf8.encode lexeme) l.span } chars
          reports := ⟨accounts.diagnostics, accounts.errors, accounts.arise, accounts.returned⟩
      exact ⟨[], (List.append_nil reports).symm ▸ added.emit _⟩
  | word id => exact ⟨[], (List.append_nil reports).symm ▸ accounts.emit _⟩
  | badWord index flaw => exact ⟨_, (accounts.report (.word _ _)).emit _⟩
  | malformed fault =>
      have other : fault ≠ .unexpectedCharacter := by
        obtain ⟨rfl, _⟩ := Lexeme.fault_of_malformed (reads.trans reading)
        unfold Lexeme.faultOf
        split_ifs <;> decide
      exact ⟨_, (accounts.report (.lexeme other _ _ _)).emit _⟩
  | fatal fault =>
      by_cases unexpected : fault = .unexpectedCharacter
      · subst unexpected
        exact ⟨_, accounts.fail (.character here (congrArg id anchored))⟩
      · simp only [unexpected, if_false]
        exact ⟨_, accounts.fail (.lexeme unexpected _ _ _)⟩

theorem scan (accounts : l.Accounts chars reports) (standing : l.Standing chars) :
    ∃ more, l.scan.2.Accounts chars (reports ++ more) := by
  cases standing with
  | stopped cut final =>
      rw [scan_of_final final]
      exact ⟨[], (List.append_nil reports).symm ▸ accounts⟩
  | going i reads =>
      unfold Lexer.scan
      rw [reads.going]
      cases gap : Trivia.gap l.rest with
      | unclosed n =>
          exact ⟨_, ((accounts.forward n).setAnchor.forward _).fail (.lexeme (by decide) _ _ _)⟩
      | closed n =>
          have atGap := reads.forward n
          cases front : (l.forward n).rest with
          | nil =>
              simp only [next_nil front]
              exact ⟨[], (List.append_nil reports).symm ▸ (accounts.forward n).finish⟩
          | cons c rest =>
              simp only [next_cons front]
              have here : chars[i + n]? = some c := by
                rw [← List.head?_drop, ← atGap.rest, front, List.head?_cons]
              exact ((accounts.forward n).setAnchor.forward _).take atGap.here here _

theorem scans (accounts : l.Accounts chars reports) (standing : l.Standing chars) (n : Nat) :
    ∃ more, (l.afterScans n).Accounts chars (reports ++ more) := by
  induction n with
  | zero => exact ⟨[], (List.append_nil reports).symm ▸ accounts⟩
  | succ n ih =>
      obtain ⟨more, before⟩ := ih
      obtain ⟨last, after⟩ := before.scan (standing.scans n)
      exact ⟨more ++ last, (List.append_assoc reports more last) ▸ after⟩

end Accounts

theorem accounts_start (settings : Settings) (source : Source) :
    (start settings source).Accounts source.chars [] := by
  let fresh : Lexer :=
    { name := settings.name, profile := settings.profile, source, rest := source.chars }
  have nothing : fresh.Accounts source.chars [] :=
    ⟨rfl, rfl, List.forall_mem_nil _, fun _ failed => by cases failed⟩
  unfold start
  dsimp only
  split_ifs
  · exact nothing.trace _
  · exact nothing

end Lexer

namespace Reported

/-- The message of an error is that of its diagnostic behind the place of the diagnostic, or else
the error is about a NUL, and the diagnostic does not name it. -/
inductive Tells (chars : List Char) (x : Reported) (e : LexError) : Prop
  | whole (message : e.message = x.diagnostic.span.located x.diagnostic.message)
  | nul {i : Nat} (here : chars[i]? = some '\x00')
      (place : x.diagnostic.span.place = Position.within chars i)
      (reason : e.reason = .fault .unexpectedCharacter)
      (named : e.message = x.diagnostic.span.located (utf8 "unexpected character U+0000"))
      (unnamed : x.diagnostic.message = utf8 "unexpected character")

theorem Arises.span_eq {chars : List Char} {x : Reported} (arises : x.Arises chars) {e : LexError}
    (lexical : x.error = .lexical e) : e.span = x.diagnostic.span := by
  cases arises <;> cases lexical <;> rfl

theorem Arises.tells {chars : List Char} {x : Reported} (arises : x.Arises chars) {e : LexError}
    (lexical : x.error = .lexical e) : x.Tells chars e := by
  cases arises with
  | word => cases lexical
  | @lexeme fault other span text ends =>
      cases lexical
      have named : ¬ Reason.fault fault = .fault .unexpectedCharacter := fun same =>
        other (Reason.fault.inj same)
      refine .whole (congrArg span.located ?_)
      rw [LexError.detail, if_neg named]
      rfl
  | @character i c here span place =>
      cases lexical
      by_cases nul : c.toNat = 0
      · obtain rfl : c = '\x00' := Char.toNat_inj.1 nul
        have named : Fault.unexpectedCharacter.message ++ utf8 " " ++ Numeral.codePoint 0
            = utf8 "unexpected character U+0000" := by decide +kernel
        exact .nul here place rfl (congrArg span.located named) rfl
      · refine .whole (congrArg span.located ?_)
        rw [LexError.detail, if_pos rfl]
        exact (if_pos nul).symm

end Reported

namespace Diagnostic

theorem message_of_ofLiteral? {e : Error} {d : Diagnostic} (made : ofLiteral? e = some d) :
    e.message = d.span.located d.message := by
  cases e <;> cases made
  rfl

theorem message_infix_print (d : Diagnostic) (name text : Bytes) :
    d.message <:+: d.print name text := by
  refine ⟨name ++ utf8 ":" ++ Numeral.decimal d.span.line ++ utf8 ":"
    ++ Numeral.decimal d.span.column ++ utf8 ": " ++ d.severity.lowerName ++ utf8 ": ", ?_, ?_⟩
  rotate_left
  · rw [print, Layout.line]
    simp only [List.append_assoc]
    rfl

end Diagnostic

theorem Tokenized.map_message_numbered (seq : Nat) (ds : List Diagnostic) :
    (numbered seq ds).map (·.message) = ds.map (·.message) := by
  induction ds generalizing seq with
  | nil => rfl
  | cons d ds ih => rw [numbered, List.map_cons, List.map_cons, ih]

theorem exists_accounts (name : Bytes) (settings : Settings) {input : Bytes} {source : Source}
    (decoded : Source.read input = .ok source) :
    ∃ l scanned reports, tokenize name settings input = .ofScan scanned l ∧
      l.Accounts source.chars reports := by
  obtain ⟨n, scans⟩ := (Lexer.start settings source).exists_scans
  obtain ⟨reports, accounts⟩ := (Lexer.accounts_start settings source).scans
    (Lexer.standing_start settings source) n
  refine ⟨_, (List.range n).map (Lexer.start settings source).returned, _, ?_, accounts⟩
  rw [tokenize, decoded]
  exact congrArg (fun run => Tokenized.ofScan run.1 run.2) scans

theorem fatal_ofScan {scanned : List Scanned} {l : Lexer} {e : Error}
    (fatal : (Tokenized.ofScan scanned l).fatal = some e) :
    ∃ own, e = .lexical own ∧ l.final = some (.fatal own) := by
  rw [Tokenized.ofScan] at fatal
  cases final : l.final with
  | none => simp [final] at fatal
  | some last =>
      cases last with
      | token t => simp [final] at fatal
      | fatal own =>
          simp only [final, Option.some.injEq] at fatal
          exact ⟨own, fatal.symm, rfl⟩

/-- For a well-formed source, there is a list of errors that make up the diagnostics and the errors
in the log, in this order, and the fatal error is one of them. The message of each lexical error is
that of its diagnostic behind the place of the diagnostic, a NUL excepted, and so is that of each
error about a literal. Messages of diagnostics are printed and stored as they are. -/
theorem diagnostics_keep_messages (name : Bytes) (settings : Settings) {input : Bytes}
    {source : Source} (decoded : Source.read input = .ok source) :
    let r := tokenize name settings input
    let l := Lexer.start settings source
    (∃ reports : List Reported, r.diagnostics = reports.map Reported.diagnostic ∧
      r.log.filter (·.severity = .error) = reports.map (Reported.record r.name) ∧
      (∀ e, r.fatal = some e → ∃ x ∈ reports, x.ends ∧ x.error = e) ∧
      ∀ x ∈ reports, ∀ e, x.error = .lexical e → e.span = x.diagnostic.span ∧
        x.Tells source.chars e) ∧
    (∀ requests q e cause,
      ((l.afterRequests requests).answer q).1 = .outcome (.error (.literal e cause)) →
      ∃ d, Diagnostic.ofLiteral? (.literal e cause) = some d ∧
        (∃ t ∈ l.issued requests, t.span = d.span) ∧
        (Error.literal e cause).message = d.span.located d.message) ∧
    (∀ d ∈ r.diagnostics, ∀ file text, d.message <:+: d.print file text) ∧
    (Tokenized.numbered 1 r.diagnostics).map (·.message) = r.diagnostics.map (·.message) := by
  intro r l
  refine ⟨?_, ?_, fun d _ => d.message_infix_print, Tokenized.map_message_numbered 1 _⟩
  · obtain ⟨last, scanned, reports, result, accounts⟩ := exists_accounts name settings decoded
    have same : r = .ofScan scanned last := result
    rw [same]
    refine ⟨reports, accounts.diagnostics, accounts.errors, ?_, ?_⟩
    · intro e fatal
      obtain ⟨own, rfl, final⟩ := fatal_ofScan fatal
      exact ⟨_, accounts.returned own final, rfl, rfl⟩
    · intro x member e lexical
      have arises := accounts.arise x member
      exact ⟨arises.span_eq lexical, arises.tells lexical⟩
  · intro requests q e cause failed
    have tracks := Lexer.tracks_start settings source requests
    have made : Diagnostic.ofLiteral? (.literal e cause) = some (.ofError (.literal e cause) e.span) :=
      rfl
    exact ⟨_, made, tracks.exists_literal_of_error failed made,
      Diagnostic.message_of_ofLiteral? made⟩

theorem diagnostics_keep_messages_number :
    let cs := ['0', '1', ' ', '§']
    let r := tokenize (utf8 "a") ⟨utf8 "a", .ascii⟩ (Utf8.encode cs)
    Source.read (Utf8.encode cs) = .ok ⟨false, Utf8.encode cs, cs⟩ ∧
      r.diagnostics.map (·.message)
        = [utf8 "malformed number \"01\"", utf8 "unexpected character U+00A7"] ∧
      ∃ reports : List Reported, r.diagnostics = reports.map Reported.diagnostic ∧
        (∀ e, r.fatal = some e → ∃ x ∈ reports, x.ends ∧ x.error = e) ∧
        ∀ x ∈ reports, ∀ e, x.error = .lexical e →
          e.message = x.diagnostic.span.located x.diagnostic.message := by
  intro cs r
  have decoded : Source.read (Utf8.encode cs) = .ok ⟨false, Utf8.encode cs, cs⟩ :=
    Source.read_encode (by decide)
  have messages : r.diagnostics.map (·.message)
      = [utf8 "malformed number \"01\"", utf8 "unexpected character U+00A7"] := by
    decide +kernel
  obtain ⟨⟨reports, diagnostics, _, fatal, told⟩, _⟩ :=
    diagnostics_keep_messages (utf8 "a") ⟨utf8 "a", .ascii⟩ decoded
  refine ⟨decoded, messages, reports, diagnostics, fatal, ?_⟩
  intro x member e lexical
  cases (told x member e lexical).2 with
  | whole message => exact message
  | @nul i here =>
      have apart : '\x00' ∉ cs := by decide
      exact absurd (List.mem_of_getElem? here) apart

/-- The error names the character and its diagnostic does not. -/
theorem nul_left_out :
    let r := tokenize [] ⟨[], .unicode⟩ (Utf8.encode ['\x00'])
    ∃ e d, r.fatal = some e ∧ r.diagnostics = [d] ∧
      e.message = utf8 "1:1: unexpected character U+0000" ∧
      d.span = ⟨0, 1, 1, 1⟩ ∧ d.message = utf8 "unexpected character" ∧
      e.message ≠ d.span.located d.message := by
  intro r
  have decoded : Source.read (Utf8.encode ['\x00']) = .ok ⟨false, Utf8.encode ['\x00'], ['\x00']⟩ :=
    Source.read_encode (by decide)
  have trivia : Trivia.gap ['\x00'] = .closed 0 := by decide +kernel
  have read : Lexeme.read .unicode '\x00' [] = ⟨0, .fatal .unexpectedCharacter⟩ := by decide
  have cut : Segmented .unicode ['\x00'] [] (.fatal [] '\x00' [] [] .unexpectedCharacter) :=
    @Segmented.fatal _ [] [] [] _ _ trivia read
  have outlined : Outlined r ['\x00'] [] (.fatal [] '\x00' [] [] .unexpectedCharacter) :=
    cut.outlined [] decoded
  refine ⟨_, _, outlined.fatal, outlined.diagnostics, ?_⟩
  decide +kernel

end AsnLexis
