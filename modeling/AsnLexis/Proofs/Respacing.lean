import AsnLexis.Proofs.Lookahead
import AsnLexis.Proofs.Run
import AsnLexis.Text.Layout
import Mathlib

/-! Trivia only separates. The lexemes of a text, written one behind the other with a space between
them, are the lexemes of that text too, and they are read the same there. -/

namespace AsnLexis

/-- Segments with `gap` in front of the first one and a space in front of the others. -/
def respace (gap : List Char) : List Segment → List Segment
  | [] => []
  | s :: rest => { s with gap := gap } :: respace [' '] rest

def textOf (segments : List Segment) : List Char := segments.flatMap Segment.chars

theorem stops_respace (segments : List Segment) : Stops (textOf (respace [' '] segments)) := by
  cases segments with
  | nil => exact stops_nil
  | cons s segments => exact stops_cons (by decide)

theorem Segmented.respaced {p : Profile} {cs : List Char} {segments : List Segment}
    {ending : Ending} (cut : Segmented p cs segments ending) {gap : List Char}
    (blank : gap = [] ∨ gap = [' ']) :
    Segmented p (textOf (respace gap segments)) (respace gap segments) (.finished []) := by
  have nothing : Segmented p [] [] (.finished []) := .finished (Trivia.gap_of_none rfl)
  induction cut generalizing gap with
  | finished => exact nothing
  | unclosed => exact nothing
  | fatal => exact nothing
  | @segment own tail left head reading segments ending trivia read mild more ih =>
      -- What follows is empty or begins with a space, so the lexeme ends where it ended.
      have stop := stops_respace segments
      have begins := Trivia.item_respaced stop (Trivia.isTrivia_of_closed trivia).2
      have same := Lexeme.read_respaced stop read mild
      have text : textOf (respace gap (⟨own, head, tail, reading⟩ :: segments))
          = gap ++ head :: (tail ++ textOf (respace [' '] segments)) := by
        simp [textOf, respace, Segment.chars, Segment.lexeme]
      rw [text]
      apply Segmented.segment _ same mild (ih (.inr rfl))
      rcases blank with rfl | rfl
      · exact Trivia.gap_of_none begins
      · exact Trivia.gap_white (by decide) begins

theorem map_lexeme_respace (gap : List Char) (segments : List Segment) :
    (respace gap segments).map Segment.lexeme = segments.map Segment.lexeme := by
  induction segments generalizing gap with
  | nil => rfl
  | cons s segments ih => exact congrArg (s.lexeme :: ·) (ih [' '])

theorem map_layout_respace {α : Type} (found found' : Placed → α)
    (same : ∀ gap s i j k, found' ⟨{ s with gap := gap }, i, k⟩ = found ⟨s, j, k⟩)
    (gap : List Char) (i j k : Nat) (segments : List Segment) :
    (layout i k (respace gap segments)).map found' = (layout j k segments).map found := by
  induction segments generalizing gap i j k with
  | nil => rfl
  | cons s segments ih =>
      rw [respace, layout, layout, List.map_cons, List.map_cons, same gap s _ (j + s.gap.length)]
      exact congrArg (found _ :: ·) (ih _ _ _ _)

def Tokenized.lexemes (r : Tokenized) (source : Source) : List Bytes :=
  (r.tokens.filter (·.kind ≠ .endOfInput)).map (fun t => source.sliceSpan t.span)

def spaced (lexemes : List Bytes) : Bytes := Layout.join [0x20] lexemes

theorem encode_respace (s : Segment) (segments : List Segment) (gap : List Char) :
    Utf8.encode (textOf (respace gap (s :: segments)))
      = Utf8.encode gap ++ spaced (((s :: segments).map Segment.lexeme).map Utf8.encode) := by
  induction segments generalizing s gap with
  | nil => simp [textOf, respace, Segment.chars, Segment.lexeme, spaced, Layout.join]
  | cons t segments ih =>
      have later := ih t [' ']
      have space : Utf8.encode [' '] = [0x20] := rfl
      rw [space] at later
      have split : textOf (respace gap (s :: t :: segments))
          = gap ++ (s.lexeme ++ textOf (respace [' '] (t :: segments))) := by
        simp [textOf, respace, Segment.chars, Segment.lexeme]
      rw [split, Utf8.encode_append, Utf8.encode_append, later]
      simp [spaced, Layout.join]

theorem Segmented.lexemes_eq {p : Profile} {source : Source} {segments : List Segment}
    {ending : Ending} {r : Tokenized} (encoded : source.text = Utf8.encode source.chars)
    (cut : Segmented p source.chars segments ending)
    (outlined : Outlined r source.chars segments ending) :
    r.lexemes source = (segments.map Segment.lexeme).map Utf8.encode := by
  calc
    r.lexemes source
      = (layout 0 0 segments).map (fun x => source.sliceSpan (x.token source.chars).span) := by
        rw [Tokenized.lexemes, cut.filter_tokens outlined, List.map_map]
        rfl
    _ = (layout 0 0 segments).map (fun x => Utf8.encode x.segment.lexeme) :=
        List.map_congr_left (fun x member => cut.sliceSpan_token encoded member)
    _ = (((layout 0 0 segments).map Placed.segment).map Segment.lexeme).map Utf8.encode := by
        rw [List.map_map, List.map_map]
        rfl
    _ = (segments.map Segment.lexeme).map Utf8.encode := by rw [map_segment_layout]

def Token.content (t : Token) : Kind × Bytes × LeadCase × Nat := (t.kind, t.text, t.lead, t.handle)

def Diagnostic.content (d : Diagnostic) : Bytes × Bytes × List Bytes := (d.code, d.message, d.notes)

/-- Two results without a fatal error that differ in places only. -/
structure Tokenized.Agrees (r s : Tokenized) : Prop where
  sound : r.fatal = none ∧ s.fatal = none
  tokens : r.tokens.map Token.content = s.tokens.map Token.content
  diagnostics : r.diagnostics.map Diagnostic.content = s.diagnostics.map Diagnostic.content

namespace Tokenized.Agrees

theorem symm {r s : Tokenized} (agrees : r.Agrees s) : s.Agrees r :=
  ⟨agrees.sound.symm, agrees.tokens.symm, agrees.diagnostics.symm⟩

theorem trans {r s u : Tokenized} (agrees : r.Agrees s) (further : s.Agrees u) : r.Agrees u :=
  ⟨⟨agrees.sound.1, further.sound.2⟩, agrees.tokens.trans further.tokens,
    agrees.diagnostics.trans further.diagnostics⟩

end Tokenized.Agrees

theorem content_token (chars chars' gap : List Char) (s : Segment) (i j k : Nat) :
    (Placed.token chars' ⟨{ s with gap := gap }, i, k⟩).content
      = (Placed.token chars ⟨s, j, k⟩).content := by
  cases reading : s.reading <;>
    simp [Placed.token, Token.content, reading, Placed.text, Segment.lexeme]

theorem content_diagnostic? (chars chars' gap : List Char) (s : Segment) (i j k : Nat) :
    (Placed.diagnostic? chars' ⟨{ s with gap := gap }, i, k⟩).map Diagnostic.content
      = (Placed.diagnostic? chars ⟨s, j, k⟩).map Diagnostic.content := by
  cases reading : s.reading with
  | badWord index flaw =>
      simp only [Placed.diagnostic?, reading, Option.map_some]
      rfl
  | malformed fault =>
      simp only [Placed.diagnostic?, reading, Option.map_some]
      rfl
  | _ => simp only [Placed.diagnostic?, reading, Option.map_none]

theorem Outlined.agrees {r r' : Tokenized} {chars chars' own own' gap : List Char}
    {segments : List Segment} (before : Outlined r chars segments (.finished own))
    (after : Outlined r' chars' (respace gap segments) (.finished own')) : r'.Agrees r := by
  constructor
  · exact ⟨after.fatal, before.fatal⟩
  · have same := map_layout_respace (fun x => (x.token chars).content)
      (fun x => (x.token chars').content) (content_token chars chars') gap 0 0 0 segments
    rw [after.tokens, before.tokens, List.map_append, List.map_append, List.map_map, List.map_map]
    exact congrArg (· ++ [_]) same
  · have same := congrArg List.reduceOption
      (map_layout_respace (fun x => (x.diagnostic? chars).map Diagnostic.content)
        (fun x => (x.diagnostic? chars').map Diagnostic.content) (content_diagnostic? chars chars')
        gap 0 0 0 segments)
    simp only [List.reduceOption, List.filterMap_map, Function.id_comp] at same
    rw [after.diagnostics, before.diagnostics, List.map_append, List.map_append,
      List.map_filterMap, List.map_filterMap]
    exact congrArg (· ++ []) same

/-- A byte order mark is no lexeme, so none stands in front of respaced segments. -/
theorem Lexeme.read_mark (p : Profile) (rest : List Char) :
    read p '\uFEFF' rest = ⟨0, .fatal .unexpectedCharacter⟩ := by
  have start : isIdentifierStart '\uFEFF' = false := by decide +kernel
  have more : isIdentifierContinue '\uFEFF' = false := by decide +kernel
  have others : isDigit '\uFEFF' = false ∧ isHyphen '\uFEFF' = false ∧
      isPunctuation '\uFEFF' = false ∧ isForeignSymbol '\uFEFF' = false := by decide
  simp [read, Profile.isStart, start, more, others]

theorem Source.head_of_mark {c : Char} {cs : List Char}
    (mark : byteOrderMark <+: Utf8.encode (c :: cs)) : c = '\uFEFF' := by
  obtain ⟨rest, same⟩ := mark
  have encoded : byteOrderMark = Utf8.encodeChar '\uFEFF' := by decide
  have first := congrArg Utf8.front? same
  rw [encoded, Utf8.encode_cons, Utf8.front?_encodeChar_append,
    Utf8.front?_encodeChar_append] at first
  simp only [Option.some.injEq, Prod.mk.injEq] at first
  exact first.1.symm

theorem encode_textOf_respace (segments : List Segment) :
    Utf8.encode (textOf (respace [] segments))
      = spaced ((segments.map Segment.lexeme).map Utf8.encode) := by
  cases segments with
  | nil => rfl
  | cons s segments => exact encode_respace s segments []

theorem Segmented.unmarked {p : Profile} {cs : List Char} {segments : List Segment}
    {ending : Ending} (cut : Segmented p cs segments ending) :
    ¬ Source.byteOrderMark <+: Utf8.encode (textOf (respace [] segments)) := by
  intro mark
  cases segments with
  | nil => exact absurd mark (by decide)
  | cons s segments =>
      have head : s.head = '\uFEFF' := Source.head_of_mark mark
      obtain ⟨left, read, mild⟩ := cut.read_of_mem List.mem_cons_self
      rw [head, Lexeme.read_mark] at read
      exact mild _ (congrArg Lexeme.Front.reading read).symm

theorem Segmented.agrees_spaced {settings : Settings} {input : Bytes} {source : Source}
    {segments : List Segment} {gap : List Char} (name : Bytes)
    (decoded : Source.read input = .ok source)
    (cut : Segmented settings.profile source.chars segments (.finished gap)) :
    let r := tokenize name settings input
    let r' := tokenize name settings (spaced (r.lexemes source))
    ∃ source', Source.read (spaced (r.lexemes source)) = .ok source' ∧
      r'.Agrees r ∧ r'.lexemes source' = r.lexemes source := by
  intro r r'
  have before := cut.outlined name decoded
  have lexemes : r.lexemes source = _ :=
    cut.lexemes_eq (Source.read_eq_ok_iff.1 decoded).2 before
  have text : spaced (r.lexemes source) = Utf8.encode (textOf (respace [] segments)) := by
    rw [lexemes, encode_textOf_respace]
  have decoded' := Source.read_encode cut.unmarked
  have cut' := cut.respaced (.inl rfl)
  have after := cut'.outlined name decoded'
  have lexemes' := cut'.lexemes_eq rfl after
  rw [map_lexeme_respace, ← lexemes] at lexemes'
  simp only [r', text]
  exact ⟨_, decoded', before.agrees after, lexemes'⟩

/-- The lexemes of a source that is read without a fatal error, written with one space between them,
give the same tokens and diagnostics, their places aside, and are again the lexemes; so writing them
a second time changes nothing, and sources with the same lexemes cannot be told apart. -/
theorem tokenize_spaced_lexemes (name : Bytes) (settings : Settings) {input : Bytes}
    {source : Source} (decoded : Source.read input = .ok source)
    (sound : (tokenize name settings input).fatal = none) :
    let r := tokenize name settings input
    let r' := tokenize name settings (spaced (r.lexemes source))
    (∃ source', Source.read (spaced (r.lexemes source)) = .ok source' ∧ r'.Agrees r ∧
      r'.lexemes source' = r.lexemes source ∧
      spaced (r'.lexemes source') = spaced (r.lexemes source)) ∧
    ∀ other otherSource, Source.read other = .ok otherSource →
      (tokenize name settings other).fatal = none →
      (tokenize name settings other).lexemes otherSource = r.lexemes source →
      (tokenize name settings other).Agrees r := by
  intro r r'
  obtain ⟨segments, ending, cut⟩ := exists_segmented settings.profile source.chars
  obtain ⟨gap, rfl⟩ := (cut.outlined name decoded).finished sound
  obtain ⟨source', decoded', agrees, lexemes⟩ := cut.agrees_spaced name decoded
  refine ⟨⟨source', decoded', agrees, lexemes, congrArg spaced lexemes⟩, ?_⟩
  intro other otherSource decodedOther soundOther same
  obtain ⟨segmentsOther, endingOther, cutOther⟩ :=
    exists_segmented settings.profile otherSource.chars
  obtain ⟨gapOther, rfl⟩ := (cutOther.outlined name decodedOther).finished soundOther
  obtain ⟨_, _, agreesOther, _⟩ := cutOther.agrees_spaced name decodedOther
  rw [same] at agreesOther
  exact agreesOther.symm.trans agrees

theorem tokenize_spaced_range :
    let cs := ['1', '.', '.', '/', '*', '*', '/', '2']
    let source : Source := ⟨false, Utf8.encode cs, cs⟩
    let r := tokenize [] ⟨[], .ascii⟩ (Utf8.encode cs)
    let r' := tokenize [] ⟨[], .ascii⟩ (spaced (r.lexemes source))
    Source.read (Utf8.encode cs) = .ok source ∧ r.fatal = none ∧
      ∃ source', Source.read (spaced (r.lexemes source)) = .ok source' ∧ r'.Agrees r ∧
        r'.lexemes source' = r.lexemes source ∧
        spaced (r'.lexemes source') = spaced (r.lexemes source) := by
  intro cs source r r'
  have decoded : Source.read (Utf8.encode cs) = .ok source := Source.read_encode (by decide)
  have gap : Trivia.gap ['/', '*', '*', '/', '2'] = .closed 4 := by
    rw [Trivia.gap_of_length (n := 3) rfl, Trivia.gap_of_none rfl]
    rfl
  have cut : Segmented .ascii cs [⟨[], '1', [], .plain .number⟩, ⟨[], '.', ['.'], .plain .dotDot⟩,
      ⟨['/', '*', '*', '/'], '2', [], .plain .number⟩] (.finished []) := by
    refine @Segmented.segment _ [] [] _ '1' _ _ _ (Trivia.gap_of_none rfl) rfl (by simp) ?_
    refine @Segmented.segment _ [] ['.'] _ '.' _ _ _ (Trivia.gap_of_none rfl) rfl (by simp) ?_
    refine @Segmented.segment _ ['/', '*', '*', '/'] [] [] '2' _ _ _ gap rfl (by simp) ?_
    exact .finished (Trivia.gap_of_none rfl)
  have sound : r.fatal = none := cut.fatal_eq_none [] decoded
  exact ⟨decoded, sound, (tokenize_spaced_lexemes [] ⟨[], .ascii⟩ decoded sound).1⟩

end AsnLexis
