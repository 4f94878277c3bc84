import AsnLexis.Proofs.Segment
import Mathlib

/-! A run of the lexer is the segments of its text laid out along it: one scan for each segment, and
one for the ending. -/

namespace AsnLexis

namespace Lexer

structure Reads (l : Lexer) (chars : List Char) (i : Nat) : Prop where
  rest : l.rest = chars.drop i
  here : l.here = Position.within chars i
  going : l.final = none

theorem Reads.forward {l : Lexer} {chars : List Char} {i : Nat} (reads : l.Reads chars i)
    (n : Nat) :
    (l.forward n).Reads chars (i + n) where
  rest := by rw [Lexer.forward, reads.rest, List.drop_drop]
  here := by
    simp only [Lexer.forward]
    rw [reads.here, reads.rest]
    exact Position.advance_drop .first chars i n
  going := reads.going

/-- What the scan of a segment does, the log aside. -/
structure Passes (l after : Lexer) (chars : List Char) (x : Placed) : Prop where
  profile : after.profile = l.profile
  name : after.name = l.name
  source : after.source = l.source
  reads : after.Reads chars x.stop
  diagnostics : after.diagnostics.toList = l.diagnostics.toList ++ (x.diagnostic? chars).toList
  literals : after.literals.entries.toList = l.literals.entries.toList ++ (x.literal? chars).toList

theorem Passes.size_literals {l after : Lexer} {chars : List Char} {x : Placed}
    (passes : Passes l after chars x) :
    after.literals.size = l.literals.size + x.segment.literalCount := by
  have length := congrArg List.length passes.literals
  rw [List.length_append, Array.length_toList, Array.length_toList] at length
  rw [LiteralTable.size, LiteralTable.size, length, Placed.literal?, Segment.literalCount]
  cases x.segment.reading <;> rfl

theorem take_segment {l : Lexer} {chars left : List Char} {x : Placed}
    (anchored : l.anchor = Position.within chars x.start) (reads : l.Reads chars x.stop)
    (numbered : x.literals = l.literals.size) (behind : chars.drop x.stop = left)
    (lexeme : chars.drop x.start = x.segment.lexeme ++ left)
    (mild : ∀ fault, x.segment.reading ≠ .fatal fault) (more : Nat) :
    (l.take x.segment.head x.segment.lexeme ⟨more, x.segment.reading⟩).1 = .token (x.token chars) ∧
      Passes l (l.take x.segment.head x.segment.lexeme ⟨more, x.segment.reading⟩).2 chars x := by
  have span : l.span = x.span chars := by rw [Lexer.span, anchored, reads.here]; rfl
  have spot (index : Nat) : l.anchor.advance (x.segment.lexeme ++ l.rest) index
      = Position.within chars (x.start + index) := by
    rw [reads.rest, behind, ← lexeme, anchored]
    exact Position.advance_drop .first chars x.start index
  cases reading : x.segment.reading with
  | plain kind =>
      refine ⟨?_, ⟨rfl, rfl, rfl, ⟨reads.rest, reads.here, reads.going⟩, ?_, ?_⟩⟩
      · simp [take, emit, Placed.token, reading, span, Placed.text]
      · simp [take, emit, trace, note, Placed.diagnostic?, reading]
      · simp [take, emit, trace, note, Placed.literal?, reading]
  | literal =>
      refine ⟨?_, ⟨rfl, rfl, rfl, ⟨reads.rest, reads.here, reads.going⟩, ?_, ?_⟩⟩
      · simp [take, emit, Placed.token, reading, span, Placed.text, numbered, LiteralTable.size,
          LiteralTable.add]
      · simp [take, emit, trace, note, Placed.diagnostic?, reading]
      · simp [take, emit, trace, note, Placed.literal?, reading, LiteralTable.add, span,
          Placed.text]
  | word id =>
      refine ⟨?_, ⟨rfl, rfl, rfl, ⟨reads.rest, reads.here, reads.going⟩, ?_, ?_⟩⟩
      · simp [take, emit, Placed.token, reading, span]
      · simp [take, emit, trace, note, Placed.diagnostic?, reading]
      · simp [take, emit, trace, note, Placed.literal?, reading]
  | badWord index flaw =>
      refine ⟨?_, ⟨rfl, rfl, rfl, ⟨reads.rest, reads.here, reads.going⟩, ?_, ?_⟩⟩
      · simp [take, emit, Placed.token, reading, span, Placed.text]
      · simp [take, emit, trace, note, report, Placed.diagnostic?, reading, spot, reads.here,
          Placed.text]
      · simp [take, emit, trace, note, report, Placed.literal?, reading]
  | malformed fault =>
      refine ⟨?_, ⟨rfl, rfl, rfl, ⟨reads.rest, reads.here, reads.going⟩, ?_, ?_⟩⟩
      · simp [take, emit, Placed.token, reading, span, Placed.text]
      · simp [take, emit, trace, note, report, Placed.diagnostic?, reading, span, Placed.text]
      · simp [take, emit, trace, note, report, Placed.literal?, reading]
  | fatal fault => exact absurd reading (mild fault)

theorem scan_closed {l : Lexer} {chars cs : List Char} {i n : Nat} (reads : l.Reads chars i)
    (split : chars.drop i = cs) (trivia : Trivia.gap cs = .closed n) :
    l.scan = (l.forward n).next := by
  unfold scan
  simp only [reads.going, reads.rest, split, trivia]

theorem scan_unclosed {l : Lexer} {chars cs : List Char} {i n : Nat} (reads : l.Reads chars i)
    (split : chars.drop i = cs) (trivia : Trivia.gap cs = .unclosed n) :
    l.scan = (l.forward n).failOpen := by
  unfold scan
  simp only [reads.going, reads.rest, split, trivia]

theorem drop_add_length {chars front back : List Char} {i : Nat}
    (split : chars.drop i = front ++ back) : chars.drop (i + front.length) = back := by
  rw [← List.drop_drop, split, List.drop_left]

theorem scan_taken {l : Lexer} {chars : List Char} {i : Nat} {gap tail left : List Char}
    {head : Char} {reading : Lexeme.Reading} (reads : l.Reads chars i)
    (split : chars.drop i = gap ++ head :: (tail ++ left))
    (trivia : Trivia.gap (gap ++ head :: (tail ++ left)) = .closed gap.length)
    (read : Lexeme.read l.profile head (tail ++ left) = ⟨tail.length, reading⟩) :
    l.scan = take ((l.forward gap.length).setAnchor.forward (tail.length + 1)) head
      (head :: tail) ⟨tail.length, reading⟩ := by
  have front : (l.forward gap.length).rest = head :: (tail ++ left) := by
    rw [(reads.forward gap.length).rest]
    exact drop_add_length split
  rw [scan_closed reads split trivia, next_cons front]
  change take ((l.forward gap.length).setAnchor.forward
    ((Lexeme.read l.profile head (tail ++ left)).more + 1)) head
    (head :: (tail ++ left).take (Lexeme.read l.profile head (tail ++ left)).more)
    (Lexeme.read l.profile head (tail ++ left)) = _
  rw [read, List.take_left]

theorem scan_segment {l : Lexer} {chars : List Char} {i : Nat} {gap tail left : List Char}
    {head : Char} {reading : Lexeme.Reading} (reads : l.Reads chars i)
    (split : chars.drop i = gap ++ head :: (tail ++ left))
    (trivia : Trivia.gap (gap ++ head :: (tail ++ left)) = .closed gap.length)
    (read : Lexeme.read l.profile head (tail ++ left) = ⟨tail.length, reading⟩)
    (mild : ∀ fault, reading ≠ .fatal fault) :
    let x : Placed := ⟨⟨gap, head, tail, reading⟩, i + gap.length, l.literals.size⟩
    l.scan.1 = .token (x.token chars) ∧ Passes l l.scan.2 chars x := by
  intro x
  have lexeme : chars.drop x.start = x.segment.lexeme ++ left := drop_add_length split
  have behind : chars.drop x.stop = left := drop_add_length lexeme
  have atGap := reads.forward gap.length
  have atEnd : ((l.forward gap.length).setAnchor.forward (tail.length + 1)).Reads chars x.stop :=
    Reads.forward (l := (l.forward gap.length).setAnchor) ⟨atGap.rest, atGap.here, atGap.going⟩ _
  have taken := take_segment (x := x) atGap.here atEnd rfl behind lexeme mild tail.length
  rw [scan_taken reads split trivia read]
  refine ⟨taken.1, ?_⟩
  have passes := taken.2
  exact ⟨passes.profile, passes.name, passes.source, passes.reads, passes.diagnostics,
    passes.literals⟩

structure Ends (l after : Lexer) (last : Scanned) : Prop where
  name : after.name = l.name
  source : after.source = l.source
  final : after.final = some last
  diagnostics : after.diagnostics.toList = l.diagnostics.toList
    ++ (last.error?.map fun e => Diagnostic.ofError (.lexical e) e.span).toList
  literals : after.literals = l.literals

theorem scan_finished {l : Lexer} {chars : List Char} {i : Nat} {gap : List Char}
    (reads : l.Reads chars i) (split : chars.drop i = gap)
    (trivia : Trivia.gap gap = .closed gap.length) :
    l.scan.1 = (Ending.finished gap).scanned chars i ∧
      Ends l l.scan.2 ((Ending.finished gap).scanned chars i) := by
  have atGap := reads.forward gap.length
  have nothing : (l.forward gap.length).rest = [] := by
    rw [atGap.rest]
    exact drop_add_length (split.trans (List.append_nil gap).symm)
  have scanned : l.scan = (l.forward gap.length).finish := by
    rw [scan_closed reads split trivia, next_nil nothing]
  have span : (l.forward gap.length).setAnchor.span
      = (Position.within chars (i + gap.length)).spanTo (Position.within chars (i + gap.length)) := by
    rw [Lexer.span, setAnchor, atGap.here]
  rw [scanned]
  refine ⟨?_, ⟨rfl, rfl, ?_, ?_, rfl⟩⟩
  · simp [finish, Ending.scanned, span]
  · simp [finish, Ending.scanned, span, trace, note]
  · simp [finish, Ending.scanned, Scanned.error?, trace, note, setAnchor, Lexer.forward]

theorem scan_fails {l : Lexer} {chars : List Char} {i : Nat} (gap : List Char) (head : Char)
    (tail left : List Char) (fault : Fault) (reads : l.Reads chars i)
    (failed : l.scan = ((l.forward gap.length).setAnchor.forward (tail.length + 1)).fail
      { reason := .fault fault
        span := ((l.forward gap.length).setAnchor.forward (tail.length + 1)).span
        scalar := if fault = .unexpectedCharacter then head.toNat else 0 }) :
    l.scan.1 = (Ending.fatal gap head tail left fault).scanned chars i ∧
      Ends l l.scan.2 ((Ending.fatal gap head tail left fault).scanned chars i) := by
  have atGap := reads.forward gap.length
  have atEnd : ((l.forward gap.length).setAnchor.forward (tail.length + 1)).Reads chars
      (i + gap.length + (tail.length + 1)) :=
    Reads.forward (l := (l.forward gap.length).setAnchor) ⟨atGap.rest, atGap.here, atGap.going⟩ _
  have span : ((l.forward gap.length).setAnchor.forward (tail.length + 1)).span
      = (Position.within chars (i + gap.length)).spanTo
        (Position.within chars (i + gap.length + (tail.length + 1))) := by
    rw [← atGap.here, ← atEnd.here]
    rfl
  rw [failed, span]
  refine ⟨rfl, ⟨rfl, rfl, rfl, ?_, rfl⟩⟩
  simp [fail, note, Ending.scanned, Scanned.error?, Lexer.forward, setAnchor]

theorem scan_open {l : Lexer} {chars : List Char} {i : Nat} {gap tail : List Char}
    {head : Char} (reads : l.Reads chars i) (split : chars.drop i = gap ++ head :: tail)
    (trivia : Trivia.gap (gap ++ head :: tail) = .unclosed gap.length) :
    l.scan.1 = (Ending.fatal gap head tail [] .unterminatedComment).scanned chars i ∧
      Ends l l.scan.2 ((Ending.fatal gap head tail [] .unterminatedComment).scanned chars i) := by
  have front : (l.forward gap.length).rest = head :: tail := by
    rw [(reads.forward gap.length).rest]
    exact drop_add_length split
  apply scan_fails gap head tail [] .unterminatedComment reads
  rw [scan_unclosed reads split trivia, failOpen, front, List.length_cons]
  rfl

theorem scan_fatal {l : Lexer} {chars : List Char} {i : Nat} {gap tail left : List Char}
    {head : Char} {fault : Fault} (reads : l.Reads chars i)
    (split : chars.drop i = gap ++ head :: (tail ++ left))
    (trivia : Trivia.gap (gap ++ head :: (tail ++ left)) = .closed gap.length)
    (read : Lexeme.read l.profile head (tail ++ left) = ⟨tail.length, .fatal fault⟩) :
    l.scan.1 = (Ending.fatal gap head tail left fault).scanned chars i ∧
      Ends l l.scan.2 ((Ending.fatal gap head tail left fault).scanned chars i) := by
  apply scan_fails gap head tail left fault reads
  rw [scan_taken reads split trivia read]
  rfl

theorem scanAll_going {l : Lexer} (going : l.scan.2.final = none) :
    l.scanAll = (l.scan.1 :: l.scan.2.scanAll.1, l.scan.2.scanAll.2) := by
  rw [scanAll]
  split
  next scanned after step =>
    rw [step] at going ⊢
    rw [dif_pos going]

theorem scanAll_stopped {l : Lexer} (stopped : l.scan.2.final ≠ none) :
    l.scanAll = ([l.scan.1], l.scan.2) := by
  rw [scanAll]
  split
  next scanned after step =>
    rw [step] at stopped ⊢
    rw [dif_neg stopped]

/-- What a run over placed segments and the last scan gives, the log aside. -/
structure Gives (l : Lexer) (chars : List Char) (xs : List Placed) (last : Scanned) : Prop where
  scanned : l.scanAll.1 = xs.map (fun x => Scanned.token (x.token chars)) ++ [last]
  name : l.scanAll.2.name = l.name
  source : l.scanAll.2.source = l.source
  final : l.scanAll.2.final = some last
  diagnostics : l.scanAll.2.diagnostics.toList = l.diagnostics.toList
    ++ xs.filterMap (Placed.diagnostic? chars)
    ++ (last.error?.map fun e => Diagnostic.ofError (.lexical e) e.span).toList
  literals : l.scanAll.2.literals.entries.toList
    = l.literals.entries.toList ++ xs.filterMap (Placed.literal? chars)

theorem gives_of_ends {l : Lexer} {chars : List Char} {last : Scanned}
    (stopped : l.scan.1 = last ∧ Ends l l.scan.2 last) : Gives l chars [] last := by
  obtain ⟨returned, ends⟩ := stopped
  have all := scanAll_stopped (l := l) (by rw [ends.final]; simp)
  constructor
  · rw [all, returned]
    rfl
  · rw [all, ends.name]
  · rw [all, ends.source]
  · rw [all, ends.final]
  · rw [all, ends.diagnostics]
    simp
  · rw [all, ends.literals]
    simp

theorem gives_cons {l : Lexer} {chars : List Char} {x : Placed} {xs : List Placed} {last : Scanned}
    (step : l.scan.1 = .token (x.token chars) ∧ Passes l l.scan.2 chars x)
    (later : Gives l.scan.2 chars xs last) : Gives l chars (x :: xs) last := by
  obtain ⟨returned, passes⟩ := step
  have all := scanAll_going passes.reads.going
  constructor
  · rw [all, returned, later.scanned]
    rfl
  · rw [all, later.name, passes.name]
  · rw [all, later.source, passes.source]
  · rw [all, later.final]
  · rw [all, later.diagnostics, passes.diagnostics]
    cases found : x.diagnostic? chars <;> simp [found]
  · rw [all, later.literals, passes.literals]
    cases found : x.literal? chars <;> simp [found]

end Lexer

theorem Segmented.gives {p : Profile} {cs : List Char} {segments : List Segment} {ending : Ending}
    (cut : Segmented p cs segments ending) {l : Lexer} {chars : List Char} {i : Nat}
    (reads : l.Reads chars i) (split : chars.drop i = cs) (profile : l.profile = p) :
    l.Gives chars (layout i l.literals.size segments)
      (ending.scanned chars (i + extent segments)) := by
  -- Along the segments. The handles of literals go on from the size of the table.
  induction cut generalizing l i with
  | finished trivia => exact Lexer.gives_of_ends (Lexer.scan_finished reads split trivia)
  | unclosed trivia => exact Lexer.gives_of_ends (Lexer.scan_open reads split trivia)
  | fatal trivia read =>
      exact Lexer.gives_of_ends (Lexer.scan_fatal reads split trivia (profile ▸ read))
  | @segment gap tail left head reading segments ending trivia read mild more ih =>
      have step := Lexer.scan_segment reads split trivia (profile ▸ read) mild
      have passes := step.2
      have stop : i + gap.length + (tail.length + 1) = i + (gap ++ head :: tail).length := by
        simp only [List.length_append, List.length_cons]
        omega
      have behind : chars.drop (i + (gap ++ head :: tail).length) = left :=
        Lexer.drop_add_length (by simpa using split)
      have later := ih (stop ▸ passes.reads) behind (passes.profile.trans profile)
      rw [passes.size_literals] at later
      rw [extent_cons, ← Nat.add_assoc]
      exact Lexer.gives_cons step later

namespace Lexer

theorem reads_start (settings : Settings) (source : Source) :
    (start settings source).Reads source.chars 0 := by
  unfold start
  dsimp only
  split <;> exact ⟨rfl, (Position.advance_zero .first source.chars).symm, rfl⟩

theorem start_fields (settings : Settings) (source : Source) :
    (start settings source).profile = settings.profile ∧
      (start settings source).source = source ∧
      (start settings source).literals.entries = #[] ∧
      (start settings source).diagnostics = #[] := by
  unfold start
  dsimp only
  split <;> exact ⟨rfl, rfl, rfl, rfl⟩

end Lexer

/-- What tokenizing gives, the log aside, when its text has these segments and this ending. -/
structure Outlined (r : Tokenized) (chars : List Char) (segments : List Segment) (ending : Ending) :
    Prop where
  tokens : r.tokens = (layout 0 0 segments).map (Placed.token chars)
    ++ (ending.scanned chars (extent segments)).token?.toList
  diagnostics : r.diagnostics = (layout 0 0 segments).filterMap (Placed.diagnostic? chars)
    ++ ((ending.scanned chars (extent segments)).error?.map
      fun e => Diagnostic.ofError (.lexical e) e.span).toList
  literals : r.literals.entries.toList = (layout 0 0 segments).filterMap (Placed.literal? chars)
  fatal : r.fatal = (ending.scanned chars (extent segments)).error?.map Error.lexical

theorem Outlined.finished {r : Tokenized} {chars : List Char} {segments : List Segment}
    {ending : Ending} (outlined : Outlined r chars segments ending) (sound : r.fatal = none) :
    ∃ gap, ending = .finished gap := by
  cases ending with
  | finished gap => exact ⟨gap, rfl⟩
  | fatal =>
      rw [outlined.fatal] at sound
      cases sound

theorem Segmented.outlined {settings : Settings} {input : Bytes} {source : Source}
    {segments : List Segment} {ending : Ending} (name : Bytes)
    (decoded : Source.read input = .ok source)
    (cut : Segmented settings.profile source.chars segments ending) :
    Outlined (tokenize name settings input) source.chars segments ending := by
  obtain ⟨profile, _, literals, diagnostics⟩ := Lexer.start_fields settings source
  have gives := cut.gives (Lexer.reads_start settings source) rfl profile
  have empty : (Lexer.start settings source).literals.size = 0 := by
    rw [LiteralTable.size, literals]
    rfl
  have result : tokenize name settings input = .ofScan (Lexer.start settings source).scanAll.1
      (Lexer.start settings source).scanAll.2 := by
    rw [tokenize, decoded]
  rw [empty, Nat.zero_add] at gives
  rw [result]
  constructor
  · rw [Tokenized.ofScan, gives.scanned, List.filterMap_append, List.filterMap_map]
    have passed := congrFun (List.filterMap_eq_map' (f := Placed.token source.chars))
      (layout 0 0 segments)
    refine congrArg₂ (· ++ ·) passed ?_
    generalize ending.scanned source.chars (extent segments) = last
    cases last <;> rfl
  · rw [Tokenized.ofScan, gives.diagnostics, diagnostics]
    rfl
  · rw [Tokenized.ofScan, gives.literals, literals]
    rfl
  · rw [Tokenized.ofScan, gives.final]
    generalize ending.scanned source.chars (extent segments) = last
    cases last <;> rfl

theorem Segmented.fatal_eq_none {settings : Settings} {input : Bytes} {source : Source}
    {segments : List Segment} {gap : List Char} (name : Bytes)
    (decoded : Source.read input = .ok source)
    (cut : Segmented settings.profile source.chars segments (.finished gap)) :
    (tokenize name settings input).fatal = none := by
  rw [(cut.outlined name decoded).fatal]
  rfl

theorem Segmented.filter_tokens {p : Profile} {chars : List Char} {segments : List Segment}
    {ending : Ending} {r : Tokenized} (cut : Segmented p chars segments ending)
    (outlined : Outlined r chars segments ending) :
    r.tokens.filter (·.kind ≠ .endOfInput) = (layout 0 0 segments).map (Placed.token chars) := by
  rw [outlined.tokens, List.filter_append]
  have kept : ((layout 0 0 segments).map (Placed.token chars)).filter (·.kind ≠ .endOfInput)
      = (layout 0 0 segments).map (Placed.token chars) := by
    rw [List.filter_eq_self]
    intro t member
    obtain ⟨x, inside, rfl⟩ := List.mem_map.1 member
    simpa using cut.kind_ne_endOfInput inside
  rw [kept]
  cases ending <;> simp [Ending.scanned, Scanned.token?]

end AsnLexis
