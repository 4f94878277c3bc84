import AsnLexis.Proofs.Lexeme
import AsnLexis.Proofs.Position
import AsnLexis.Proofs.Trivia
import AsnLexis.Tokenize
import Mathlib

/-! How a text falls into segments, each a gap and the lexeme behind it, up to its end or to a fatal
lexeme. Segments know nothing of places: a run of the lexer is the segments of its text laid out
along it. -/

namespace AsnLexis

/-- A lexeme that gives a token, with the trivia in front of it. -/
structure Segment where
  gap : List Char
  head : Char
  tail : List Char
  reading : Lexeme.Reading

namespace Segment

def lexeme (s : Segment) : List Char := s.head :: s.tail

theorem encode_lexeme_pos (s : Segment) : 0 < (Utf8.encode s.lexeme).length := by
  rw [lexeme, Utf8.encode_cons, List.length_append, Utf8.length_encodeChar]
  exact Nat.add_pos_left (Utf8.width_pos s.head) _

def chars (s : Segment) : List Char := s.gap ++ s.lexeme

def literalCount (s : Segment) : Nat :=
  match s.reading with
  | .literal => 1
  | _ => 0

end Segment

/-- What stands behind the last segment: trivia, and then the end or a lexeme that ends the scan. -/
inductive Ending where
  | finished (gap : List Char)
  | fatal (gap : List Char) (head : Char) (tail left : List Char) (fault : Fault)

def Ending.gap : Ending → List Char
  | finished gap => gap
  | fatal gap .. => gap

def Ending.chars : Ending → List Char
  | finished gap => gap
  | fatal gap head tail left _ => gap ++ head :: (tail ++ left)

inductive Segmented (p : Profile) : List Char → List Segment → Ending → Prop
  | finished {gap : List Char} (trivia : Trivia.gap gap = .closed gap.length) :
      Segmented p gap [] (.finished gap)
  | unclosed {gap tail : List Char} {head : Char}
      (trivia : Trivia.gap (gap ++ head :: tail) = .unclosed gap.length) :
      Segmented p (gap ++ head :: tail) [] (.fatal gap head tail [] .unterminatedComment)
  | fatal {gap tail left : List Char} {head : Char} {fault : Fault}
      (trivia : Trivia.gap (gap ++ head :: (tail ++ left)) = .closed gap.length)
      (read : Lexeme.read p head (tail ++ left) = ⟨tail.length, .fatal fault⟩) :
      Segmented p (gap ++ head :: (tail ++ left)) [] (.fatal gap head tail left fault)
  | segment {gap tail left : List Char} {head : Char} {reading : Lexeme.Reading}
      {segments : List Segment} {ending : Ending}
      (trivia : Trivia.gap (gap ++ head :: (tail ++ left)) = .closed gap.length)
      (read : Lexeme.read p head (tail ++ left) = ⟨tail.length, reading⟩)
      (mild : ∀ fault, reading ≠ .fatal fault) (more : Segmented p left segments ending) :
      Segmented p (gap ++ head :: (tail ++ left)) (⟨gap, head, tail, reading⟩ :: segments) ending

theorem exists_segmented (p : Profile) (cs : List Char) :
    ∃ segments ending, Segmented p cs segments ending := by
  -- By the length of the text: a lexeme takes a scalar at least, the gap in front of it maybe none.
  induction length : cs.length using Nat.strong_induction_on generalizing cs with
  | _ n ih =>
    obtain ⟨gap, after, rfl, _, ⟨trivia, _⟩ | ⟨trivia, opened⟩⟩ := Trivia.gap_isTrivia cs
    · cases after with
      | nil =>
          rw [List.append_nil] at trivia ⊢
          exact ⟨[], .finished gap, .finished trivia⟩
      | cons head rest =>
          have short := Lexeme.more_le p head rest
          have split : rest = rest.take (Lexeme.read p head rest).more
              ++ rest.drop (Lexeme.read p head rest).more := (List.take_append_drop _ _).symm
          have taken : (rest.take (Lexeme.read p head rest).more).length
              = (Lexeme.read p head rest).more := by simpa using short
          generalize front : Lexeme.read p head rest = found at *
          obtain ⟨more, reading⟩ := found
          generalize rest.take more = tail at *
          generalize rest.drop more = left at *
          subst split
          obtain rfl : tail.length = more := taken
          by_cases mild : ∀ fault, reading ≠ .fatal fault
          · have less : left.length < n := by
              rw [← length]
              simp only [List.length_append, List.length_cons]
              omega
            obtain ⟨segments, ending, further⟩ := ih left.length less left rfl
            exact ⟨_, _, .segment trivia front mild further⟩
          · push Not at mild
            obtain ⟨fault, rfl⟩ := mild
            exact ⟨_, _, .fatal trivia front⟩
    · cases after with
      | nil => cases opened
      | cons head tail => exact ⟨_, _, .unclosed trivia⟩

theorem Segmented.chars_eq {p : Profile} {cs : List Char} {segments : List Segment}
    {ending : Ending} (cut : Segmented p cs segments ending) :
    cs = segments.flatMap Segment.chars ++ ending.chars := by
  induction cut with
  | finished => rfl
  | unclosed => simp [Ending.chars]
  | fatal => rfl
  | segment _ _ _ _ ih =>
      rw [List.flatMap_cons, List.append_assoc, ← ih]
      simp [Segment.chars, Segment.lexeme]

/-- A segment in a text: the index of its lexeme's first scalar, and how many literals there are in
front of it. -/
structure Placed where
  segment : Segment
  start : Nat
  literals : Nat

def layout (i k : Nat) : List Segment → List Placed
  | [] => []
  | s :: rest =>
    ⟨s, i + s.gap.length, k⟩ :: layout (i + s.chars.length) (k + s.literalCount) rest

namespace Placed

def stop (x : Placed) : Nat := x.start + x.segment.lexeme.length

def span (chars : List Char) (x : Placed) : Span :=
  (Position.within chars x.start).spanTo (Position.within chars x.stop)

def text (x : Placed) : Bytes := Utf8.encode x.segment.lexeme

def token (chars : List Char) (x : Placed) : Token :=
  match x.segment.reading with
  | .plain kind => { kind, text := x.text, span := x.span chars }
  | .literal => { kind := .literal, text := x.text, span := x.span chars, handle := x.literals + 1 }
  | .word id =>
    { kind := if isKeyword id.text then .keyword else .identifier
      text := id.text, span := x.span chars, lead := id.lead }
  | _ => { kind := .unknown, text := x.text, span := x.span chars }

def diagnostic? (chars : List Char) (x : Placed) : Option Diagnostic :=
  match x.segment.reading with
  | .badWord index flaw =>
    let place := Position.within chars (x.start + index)
    some (.ofError (.identifier ⟨place.offset, x.text, flaw.message⟩)
      (place.spanTo (Position.within chars x.stop)))
  | .malformed fault =>
    let error : LexError := { reason := .fault fault, span := x.span chars, text := x.text }
    some (.ofError (.lexical error) (x.span chars))
  | _ => none

def literal? (chars : List Char) (x : Placed) : Option Literal.Entry :=
  match x.segment.reading with
  | .literal => some ⟨x.text, x.span chars, none⟩
  | _ => none

end Placed

def Lexeme.Reading.kind : Lexeme.Reading → Kind
  | plain kind => kind
  | literal => .literal
  | word id => if isKeyword id.text then .keyword else .identifier
  | _ => .unknown

theorem Lexeme.literal_of_kind {p : Profile} {c : Char} {rest : List Char} {reading : Reading}
    (found : (read p c rest).reading = reading) (literal : reading.kind = .literal) :
    reading = .literal := by
  cases reading with
  | literal => rfl
  | plain kind =>
      rw [Reading.kind] at literal
      exact absurd (kind_of_plain found) (by simp [literal])
  | word id =>
      rw [Reading.kind] at literal
      split at literal <;> cases literal
  | _ => cases literal

theorem Placed.kind_token (chars : List Char) (x : Placed) :
    (x.token chars).kind = x.segment.reading.kind := by
  unfold token
  cases x.segment.reading <;> rfl

def Token.IsWord (t : Token) : Prop := t.kind = .identifier ∨ t.kind = .keyword

def Scanned.error? : Scanned → Option LexError
  | .token _ => none
  | .fatal e => some e

def Ending.scanned (chars : List Char) (i : Nat) : Ending → Scanned
  | finished gap =>
    let place := Position.within chars (i + gap.length)
    .token { kind := .endOfInput, text := [], span := place.spanTo place }
  | fatal gap head tail _ fault =>
    .fatal {
      reason := .fault fault
      span := (Position.within chars (i + gap.length)).spanTo
        (Position.within chars (i + gap.length + (tail.length + 1)))
      scalar := if fault = .unexpectedCharacter then head.toNat else 0 }

def extent (segments : List Segment) : Nat := (segments.flatMap Segment.chars).length

theorem extent_cons (s : Segment) (segments : List Segment) :
    extent (s :: segments) = s.chars.length + extent segments := by
  rw [extent, List.flatMap_cons, List.length_append]
  rfl

theorem Segmented.extent_finished {p : Profile} {cs gap : List Char} {segments : List Segment}
    (cut : Segmented p cs segments (.finished gap)) : extent segments + gap.length = cs.length := by
  rw [cut.chars_eq, List.length_append]
  rfl

@[simp] theorem Placed.span_token (chars : List Char) (x : Placed) :
    (x.token chars).span = x.span chars := by
  unfold Placed.token
  split <;> rfl

theorem offset_within_append {chars front back : List Char} (whole : chars = front ++ back) :
    (Position.within chars front.length).offset = (Utf8.encode front).length := by
  rw [whole, Position.offset_within]

theorem Placed.span_eq {chars before after : List Char} {x : Placed}
    (split : chars = before ++ (x.segment.lexeme ++ after)) (length : before.length = x.start) :
    (x.span chars).start = (Utf8.encode before).length ∧
      (x.span chars).stop = (Utf8.encode (before ++ x.segment.lexeme)).length := by
  constructor
  · change (Position.within chars x.start).offset = _
    rw [← length, offset_within_append split]
  · change (Position.within chars x.stop).offset = _
    rw [Placed.stop, ← length, ← List.length_append]
    exact offset_within_append (by rw [split, List.append_assoc])

theorem layout_split (front back : List Char) {segments : List Segment} {k : Nat} {x : Placed}
    (member : x ∈ layout front.length k segments) :
    ∃ before after, front ++ (segments.flatMap Segment.chars ++ back)
        = before ++ (x.segment.lexeme ++ after) ∧ before.length = x.start := by
  induction segments generalizing front k with
  | nil => cases member
  | cons s segments ih =>
      rw [layout, List.mem_cons] at member
      rcases member with rfl | member
      · refine ⟨front ++ s.gap, segments.flatMap Segment.chars ++ back, ?_, ?_⟩
        · simp [Segment.chars]
        · rw [List.length_append]
      · rw [← List.length_append] at member
        obtain ⟨before, after, split, length⟩ := ih _ member
        refine ⟨before, after, ?_, length⟩
        rw [← split]
        simp

theorem layout_ge {i k : Nat} {segments : List Segment} {x : Placed}
    (member : x ∈ layout i k segments) : i ≤ x.start := by
  induction segments generalizing i k with
  | nil => cases member
  | cons s segments ih =>
      rw [layout, List.mem_cons] at member
      rcases member with rfl | member
      · exact Nat.le_add_right _ _
      · exact Nat.le_trans (Nat.le_add_right _ _) (ih member)

theorem layout_pairwise (i k : Nat) (segments : List Segment) :
    (layout i k segments).Pairwise (fun x y => x.stop ≤ y.start) := by
  induction segments generalizing i k with
  | nil => exact .nil
  | cons s segments ih =>
      refine .cons ?_ (ih _ _)
      intro y member
      have later := layout_ge member
      rw [Segment.chars, List.length_append, ← Nat.add_assoc] at later
      exact later

theorem Segmented.read_of_mem {p : Profile} {cs : List Char} {segments : List Segment}
    {ending : Ending} (cut : Segmented p cs segments ending) {s : Segment} (member : s ∈ segments) :
    ∃ left, Lexeme.read p s.head (s.tail ++ left) = ⟨s.tail.length, s.reading⟩ ∧
      ∀ fault, s.reading ≠ .fatal fault := by
  induction cut with
  | finished => cases member
  | unclosed => cases member
  | fatal => cases member
  | @segment gap tail left head reading segments ending trivia read mild more ih =>
      rcases List.mem_cons.1 member with rfl | later
      · exact ⟨left, read, mild⟩
      · exact ih later

theorem map_segment_layout (i k : Nat) (segments : List Segment) :
    (layout i k segments).map Placed.segment = segments := by
  induction segments generalizing i k with
  | nil => rfl
  | cons s segments ih => rw [layout, List.map_cons, ih]

theorem segment_of_mem_layout {i k : Nat} {segments : List Segment} {x : Placed}
    (member : x ∈ layout i k segments) : x.segment ∈ segments := by
  have listed := List.mem_map_of_mem (f := Placed.segment) member
  rwa [map_segment_layout] at listed

theorem Placed.kind_ne_endOfInput {p : Profile} {x : Placed} {left : List Char} (chars : List Char)
    (read : Lexeme.read p x.segment.head (x.segment.tail ++ left)
      = ⟨x.segment.tail.length, x.segment.reading⟩) : (x.token chars).kind ≠ .endOfInput := by
  unfold Placed.token
  split
  next kind plain =>
    have reading := congrArg Lexeme.Front.reading read
    rintro rfl
    exact Lexeme.kind_of_plain (reading.trans plain) (by decide)
  next => simp
  next => split <;> simp
  next => simp

theorem Placed.isLiteral_token_iff {p : Profile} {x : Placed} {left : List Char} (chars : List Char)
    (read : Lexeme.read p x.segment.head (x.segment.tail ++ left)
      = ⟨x.segment.tail.length, x.segment.reading⟩) :
    (x.token chars).isLiteral ↔ x.segment.reading = .literal := by
  rw [Token.isLiteral, beq_iff_eq, kind_token]
  constructor
  · exact Lexeme.literal_of_kind (congrArg Lexeme.Front.reading read)
  · intro literal
    rw [literal]
    rfl

/-- A placed lexeme is that of a literal, whose token names its cell and has the same text and span,
or it has no cell, and its token no handle. -/
theorem Placed.literal_or_other {p : Profile} {x : Placed} {left : List Char} (chars : List Char)
    (read : Lexeme.read p x.segment.head (x.segment.tail ++ left)
      = ⟨x.segment.tail.length, x.segment.reading⟩) :
    ((x.token chars).isLiteral ∧ (x.token chars).handle = x.literals + 1 ∧
        (x.token chars).text = x.text ∧
        x.literal? chars = some ⟨(x.token chars).text, (x.token chars).span, none⟩) ∨
      (¬ (x.token chars).isLiteral ∧ (x.token chars).handle = 0 ∧ x.literal? chars = none) := by
  rw [isLiteral_token_iff chars read, token, literal?]
  cases x.segment.reading with
  | literal => exact .inl ⟨rfl, rfl, rfl, rfl⟩
  | _ => exact .inr ⟨nofun, rfl, rfl⟩

theorem Segmented.kind_ne_endOfInput {p : Profile} {chars cs : List Char} {segments : List Segment}
    {ending : Ending} (cut : Segmented p cs segments ending) {i k : Nat} {x : Placed}
    (member : x ∈ layout i k segments) : (x.token chars).kind ≠ .endOfInput := by
  obtain ⟨left, read, _⟩ := cut.read_of_mem (segment_of_mem_layout member)
  exact Placed.kind_ne_endOfInput chars read

theorem Placed.sliceSpan_span {source : Source} (encoded : source.text = Utf8.encode source.chars)
    {before after : List Char} {x : Placed}
    (split : source.chars = before ++ (x.segment.lexeme ++ after))
    (length : before.length = x.start) : source.sliceSpan (x.span source.chars) = x.text := by
  obtain ⟨start, stop⟩ := Placed.span_eq split length
  rw [Source.sliceSpan, start, stop]
  exact Source.slice_eq encoded (by rw [split, List.append_assoc])

theorem Segmented.sliceSpan_token {p : Profile} {source : Source} {segments : List Segment}
    {ending : Ending} (cut : Segmented p source.chars segments ending)
    (encoded : source.text = Utf8.encode source.chars) {k : Nat} {x : Placed}
    (member : x ∈ layout 0 k segments) :
    source.sliceSpan (x.token source.chars).span = Utf8.encode x.segment.lexeme := by
  obtain ⟨before, after, split, length⟩ := layout_split [] ending.chars member
  rw [List.nil_append, ← cut.chars_eq] at split
  rw [Placed.span_token]
  exact Placed.sliceSpan_span encoded split length

theorem Segmented.fatal_ending {p : Profile} {cs : List Char} {segments : List Segment}
    {gap tail left : List Char} {head : Char} {fault : Fault}
    (cut : Segmented p cs segments (.fatal gap head tail left fault)) :
    ((fault = .unterminatedComment ∨ fault = .unterminatedString) ∧ left = [])
      ∨ (fault = .unexpectedCharacter ∧ tail = []) := by
  generalize last : Ending.fatal gap head tail left fault = ending at cut
  induction cut with
  | finished => cases last
  | unclosed =>
      cases last
      exact .inl ⟨.inl rfl, rfl⟩
  | fatal trivia read =>
      cases last
      have reading := congrArg Lexeme.Front.reading read
      rcases Lexeme.read_fatal reading with ⟨same, length⟩ | ⟨same, length⟩
      · rw [read, List.length_append] at length
        exact .inl ⟨.inr same, List.eq_nil_of_length_eq_zero (by simpa using length)⟩
      · rw [read] at length
        exact .inr ⟨same, List.eq_nil_of_length_eq_zero length⟩
  | segment _ _ _ _ ih => exact ih last

theorem Segmented.stop_le {p : Profile} {cs : List Char} {segments : List Segment} {ending : Ending}
    (cut : Segmented p cs segments ending) {k : Nat} {x : Placed}
    (member : x ∈ layout 0 k segments) : x.stop ≤ cs.length := by
  obtain ⟨before, after, split, length⟩ := layout_split [] ending.chars member
  rw [List.nil_append, ← cut.chars_eq] at split
  rw [split, Placed.stop, ← length, List.length_append, List.length_append]
  omega

theorem Segmented.index_le {p : Profile} {cs : List Char} {segments : List Segment}
    {ending : Ending} (cut : Segmented p cs segments ending) {s : Segment} (member : s ∈ segments)
    {i : Nat} {flaw : IdentifierFlaw} (bad : s.reading = .badWord i flaw) : i ≤ s.tail.length := by
  obtain ⟨left, read, _⟩ := cut.read_of_mem member
  have reading := congrArg Lexeme.Front.reading read
  have bound := (Lexeme.badWord_index_le (reading.trans bad)).1
  rwa [read] at bound

end AsnLexis
