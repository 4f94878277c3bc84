import AsnLexis.Proofs.Run
import Mathlib

/-! Nothing of a text is lost: the spans of its tokens and the trivia between them cover it from its
first byte to its last, or to the lexeme that ends the scan. -/

namespace AsnLexis

namespace Source

def IsBoundary (s : Source) (n : Nat) : Prop :=
  ∃ front back, s.text = Utf8.encode front ++ Utf8.encode back ∧ n = (Utf8.encode front).length

def IsTrivia (s : Source) (start stop : Nat) : Prop :=
  ∃ front gap after, s.text = Utf8.encode front ++ Utf8.encode gap ++ Utf8.encode after ∧
    start = (Utf8.encode front).length ∧ stop = start + (Utf8.encode gap).length ∧
    Trivia.IsTrivia gap after

/-- How tokenizing ends behind the tokens `lexed`, and where the last gap stops. -/
inductive Ended (s : Source) (r : Tokenized) (lexed : List Token) : Nat → Prop
  | finished (last : Token) (sound : r.fatal = none) (tokens : r.tokens = lexed ++ [last])
      (kind : last.kind = .endOfInput) (text : last.text = [])
      (start : last.span.start = s.text.length) (stop : last.span.stop = s.text.length)
      (place : last.span.place = s.stop) : Ended s r lexed s.text.length
  | unterminated (e : LexError) (fatal : r.fatal = some (.lexical e)) (tokens : r.tokens = lexed)
      (reason : e.reason = .fault .unterminatedComment ∨ e.reason = .fault .unterminatedString)
      (stop : e.span.stop = s.text.length) : Ended s r lexed e.span.start
  | unexpected (e : LexError) (c : Char) (fatal : r.fatal = some (.lexical e))
      (tokens : r.tokens = lexed) (reason : e.reason = .fault .unexpectedCharacter)
      (scalar : s.HasScalar e.span.place c) (stop : e.span.stop = e.span.start + Utf8.width c) :
      Ended s r lexed e.span.start

end Source

def gapsOf (start : Nat) : List Token → Nat → List (Nat × Nat)
  | [], stop => [(start, stop)]
  | t :: rest, stop => (start, t.span.start) :: gapsOf t.span.stop rest stop

/-- The tokens `lexed` and the trivia around them cover the text up to byte `stop`, where tokenizing
ends. -/
structure Source.Tiled (s : Source) (r : Tokenized) (lexed : List Token) (stop : Nat) : Prop where
  ended : s.Ended r lexed stop
  wide : ∀ t ∈ lexed, t.span.start < t.span.stop
  boundaries : ∀ t ∈ lexed, s.IsBoundary t.span.start ∧ s.IsBoundary t.span.stop
  places : ∀ t ∈ lexed, ∃ c, s.HasScalar t.span.place c
  ascending : lexed.Pairwise (fun t u => t.span.start < u.span.start ∧ t.span.stop ≤ u.span.start)
  gaps : ∀ gap ∈ gapsOf 0 lexed stop, s.IsTrivia gap.1 gap.2

theorem Source.isTrivia_of_gap {source : Source} {chars front gap after : List Char}
    (encoded : source.text = Utf8.encode chars) (whole : chars = front ++ (gap ++ after))
    (grammar : Trivia.IsTrivia gap after) :
    source.IsTrivia (Utf8.encode front).length
      (Position.within chars (front.length + gap.length)).offset := by
  refine ⟨front, gap, after, ?_, rfl, ?_, grammar⟩
  · rw [encoded, whole, ← List.append_assoc, Utf8.encode_append, Utf8.encode_append]
  · rw [← List.length_append, offset_within_append (by rw [whole, List.append_assoc]),
      Utf8.encode_append, List.length_append]

theorem Segmented.gaps {p : Profile} {cs : List Char} {segments : List Segment} {ending : Ending}
    (cut : Segmented p cs segments ending) {source : Source} {chars : List Char} (front : List Char)
    (k : Nat) (encoded : source.text = Utf8.encode chars) (whole : chars = front ++ cs) :
    ∀ gap ∈ gapsOf (Utf8.encode front).length
        ((layout front.length k segments).map (Placed.token chars))
        (Position.within chars (front.length + extent segments + ending.gap.length)).offset,
      source.IsTrivia gap.1 gap.2 := by
  -- Each segment adds its own scalars to `front`; the ending adds the last gap.
  induction cut generalizing front k with
  | @finished gap trivia =>
      simp only [layout, List.map_nil, gapsOf, List.mem_singleton, forall_eq]
      have grammar : Trivia.IsTrivia gap [] ∧ _ :=
        Trivia.isTrivia_of_closed (by rw [List.append_nil]; exact trivia)
      exact Source.isTrivia_of_gap encoded (whole.trans (by rw [List.append_nil]; rfl)) grammar.1
  | unclosed trivia =>
      simp only [layout, List.map_nil, gapsOf, List.mem_singleton, forall_eq]
      exact Source.isTrivia_of_gap encoded whole (Trivia.isTrivia_of_unclosed trivia).1
  | fatal trivia read =>
      simp only [layout, List.map_nil, gapsOf, List.mem_singleton, forall_eq]
      exact Source.isTrivia_of_gap encoded whole (Trivia.isTrivia_of_closed trivia).1
  | @segment gap tail left head reading segments ending trivia read mild more ih =>
      have whole' : chars = (front ++ (gap ++ head :: tail)) ++ left := by
        rw [whole]
        simp
      let x : Placed := ⟨⟨gap, head, tail, reading⟩, front.length + gap.length, k⟩
      have stop : (x.span chars).stop = (Utf8.encode (front ++ (gap ++ head :: tail))).length := by
        rw [(Placed.span_eq (x := x) (whole.trans (List.append_assoc _ _ _).symm)
          List.length_append).2, List.append_assoc]
        rfl
      have later := ih (front ++ (gap ++ head :: tail)) (k + x.segment.literalCount) whole'
      intro g member
      rw [layout, List.map_cons, gapsOf, List.mem_cons, Placed.span_token] at member
      rcases member with rfl | member
      · exact Source.isTrivia_of_gap encoded whole (Trivia.isTrivia_of_closed trivia).1
      · apply later
        rw [← stop, List.length_append, Nat.add_assoc front.length]
        rwa [extent_cons] at member

theorem Segmented.ended {settings : Settings} {source : Source} {segments : List Segment}
    {ending : Ending} {r : Tokenized} (encoded : source.text = Utf8.encode source.chars)
    (cut : Segmented settings.profile source.chars segments ending)
    (outlined : Outlined r source.chars segments ending) :
    source.Ended r ((layout 0 0 segments).map (Placed.token source.chars))
      (Position.within source.chars (extent segments + ending.gap.length)).offset := by
  have whole := cut.chars_eq
  have offset := Source.offset_within_length encoded
  cases ending with
  | finished gap =>
      have length := cut.extent_finished
      change source.Ended r _ (Position.within source.chars (extent segments + gap.length)).offset
      rw [length, offset]
      have tokens := outlined.tokens
      simp only [Ending.scanned, length] at tokens
      exact .finished _ outlined.fatal tokens rfl rfl offset offset rfl
  | fatal gap head tail left fault =>
      obtain ⟨front, split, start⟩ : ∃ front, source.chars = front ++ head :: (tail ++ left) ∧
          front.length = extent segments + gap.length :=
        ⟨segments.flatMap Segment.chars ++ gap, whole.trans (by simp [Ending.chars]), by
          rw [List.length_append]
          rfl⟩
      have tokens : r.tokens = (layout 0 0 segments).map (Placed.token source.chars) := by
        rw [outlined.tokens]
        exact List.append_nil _
      rcases cut.fatal_ending with ⟨reason, rfl⟩ | ⟨rfl, rfl⟩
      · refine .unterminated _ outlined.fatal tokens ?_ ?_
        · rcases reason with rfl | rfl
          · exact .inl rfl
          · exact .inr rfl
        · change (Position.within source.chars
            (extent segments + gap.length + (tail.length + 1))).offset = _
          have length : front.length + (tail.length + 1) = source.chars.length := by
            rw [split]
            simp
          rw [← start, length]
          exact offset
      · refine .unexpected _ head outlined.fatal tokens rfl ?_ ?_
        · have scalar := Source.hasScalar_within split
          rw [start] at scalar
          exact scalar
        · change (Position.within source.chars (extent segments + gap.length + 1)).offset
            = (Position.within source.chars (extent segments + gap.length)).offset + _
          have next : source.chars = (front ++ [head]) ++ left := split.trans (by simp)
          have stop := offset_within_append next
          rw [List.length_append, List.length_singleton] at stop
          rw [← start, stop, offset_within_append split, Utf8.encode_append, List.length_append]
          simp [Utf8.length_encodeChar]

theorem Segmented.lexeme_spans {p : Profile} {source : Source} {segments : List Segment}
    {ending : Ending} (cut : Segmented p source.chars segments ending)
    (encoded : source.text = Utf8.encode source.chars) {k : Nat} {x : Placed}
    (member : x ∈ layout 0 k segments) :
    (x.token source.chars).span.start < (x.token source.chars).span.stop ∧
      source.IsBoundary (x.token source.chars).span.start ∧
      source.IsBoundary (x.token source.chars).span.stop ∧
      ∃ c, source.HasScalar (x.token source.chars).span.place c := by
  obtain ⟨before, after, split, length⟩ := layout_split [] ending.chars member
  rw [List.nil_append, ← cut.chars_eq] at split
  obtain ⟨start, stop⟩ := Placed.span_eq split length
  rw [Placed.span_token]
  refine ⟨?_, ⟨before, x.segment.lexeme ++ after, ?_, start⟩,
    ⟨before ++ x.segment.lexeme, after, ?_, stop⟩, x.segment.head, ?_⟩
  · rw [start, stop, Utf8.encode_append, List.length_append]
    exact Nat.lt_add_of_pos_right x.segment.encode_lexeme_pos
  · rw [encoded, ← Utf8.encode_append, ← split]
  · rw [encoded, ← Utf8.encode_append, List.append_assoc, ← split]
  · have scalar := Source.hasScalar_within split
    rw [length] at scalar
    exact scalar

/-- The tokens of a well-formed source in front of the end of the input have non-empty spans of
whole scalars, in ascending order and apart from each other, each with the line and column of its first
scalar; what is left of the text in front of them, between them and behind them, up to its end or to
the fatal lexeme, is trivia. -/
theorem tokens_tile_text (name : Bytes) (settings : Settings) {input : Bytes} {source : Source}
    (decoded : Source.read input = .ok source) :
    ∃ stop, source.Tiled (tokenize name settings input)
      ((tokenize name settings input).tokens.filter (·.kind ≠ .endOfInput)) stop := by
  have encoded := (Source.read_eq_ok_iff.1 decoded).2
  obtain ⟨segments, ending, cut⟩ := exists_segmented settings.profile source.chars
  have outlined := cut.outlined name decoded
  have spans {t : Token} (member : t ∈ (layout 0 0 segments).map (Placed.token source.chars)) :
      t.span.start < t.span.stop ∧ source.IsBoundary t.span.start ∧
        source.IsBoundary t.span.stop ∧ ∃ c, source.HasScalar t.span.place c := by
    obtain ⟨x, inside, rfl⟩ := List.mem_map.1 member
    exact cut.lexeme_spans encoded inside
  rw [cut.filter_tokens outlined]
  refine ⟨_, ⟨cut.ended encoded outlined, ?_, ?_, ?_, ?_, ?_⟩⟩
  · intro t member
    exact (spans member).1
  · intro t member
    exact ⟨(spans member).2.1, (spans member).2.2.1⟩
  · intro t member
    exact (spans member).2.2.2
  · have apart : ((layout 0 0 segments).map (Placed.token source.chars)).Pairwise
        (fun t u => t.span.stop ≤ u.span.start) := by
      rw [List.pairwise_map]
      refine (layout_pairwise 0 0 segments).imp ?_
      intro x y order
      rw [Placed.span_token, Placed.span_token]
      exact Position.offset_within_le source.chars order
    refine apart.imp_of_mem ?_
    intro t u member _ order
    exact ⟨Nat.lt_of_lt_of_le (spans member).1 order, order⟩
  · have gaps := cut.gaps [] 0 encoded rfl
    rw [List.length_nil, Nat.zero_add] at gaps
    exact gaps

theorem tokens_tile_text_open_comment :
    let cs := ['a', '-', '-', 'b', '\n', '"', '"', '/', '*', '/', '*', '*', '/', '.', 'é']
    Source.read (Utf8.encode cs) = .ok ⟨false, Utf8.encode cs, cs⟩ ∧
      ∃ stop, Source.Tiled ⟨false, Utf8.encode cs, cs⟩ (tokenize [] ⟨[], .ascii⟩ (Utf8.encode cs))
        ((tokenize [] ⟨[], .ascii⟩ (Utf8.encode cs)).tokens.filter (·.kind ≠ .endOfInput)) stop :=
  have decoded := Source.read_encode (by decide)
  ⟨decoded, tokens_tile_text [] ⟨[], .ascii⟩ decoded⟩

end AsnLexis
