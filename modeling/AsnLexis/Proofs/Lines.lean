import AsnLexis.Proofs.Lookahead
import AsnLexis.Proofs.Run
import Mathlib

/-! A text of full lines can be tokenized apart from what follows it. The segments of the two parts
stand one behind the other, except that the trivia at the end of the first part and the trivia at
the front of the second become one gap. -/

namespace AsnLexis

def Segment.widen (gap : List Char) (s : Segment) : Segment := { s with gap := gap ++ s.gap }

theorem Segment.length_widen (s : Segment) (gap : List Char) :
    (s.widen gap).chars.length = gap.length + s.chars.length := by
  simp only [chars, widen, List.length_append, Nat.add_assoc]
  rfl

def Ending.widen (gap : List Char) : Ending → Ending
  | finished own => finished (gap ++ own)
  | fatal own head tail left fault => fatal (gap ++ own) head tail left fault

def widenFirst (gap : List Char) : List Segment → List Segment
  | [] => []
  | s :: rest => s.widen gap :: rest

/-- The ending behind segments with more trivia in front of them; it is the ending that the trivia
joins when there are no segments. -/
def widenLast (gap : List Char) : List Segment → Ending → Ending
  | [], ending => ending.widen gap
  | _ :: _, ending => ending

theorem Segmented.widen {p : Profile} {gap cs : List Char} {segments : List Segment}
    {ending : Ending} (joined : Trivia.gap (gap ++ cs) = (Trivia.gap cs).after gap.length)
    (cut : Segmented p cs segments ending) :
    Segmented p (gap ++ cs) (widenFirst gap segments) (widenLast gap segments ending) := by
  cases cut with
  | finished trivia =>
      apply Segmented.finished
      rw [joined, trivia, List.length_append]
      rfl
  | unclosed trivia =>
      rw [trivia, ← List.append_assoc] at joined
      rw [← List.append_assoc]
      apply Segmented.unclosed
      rw [joined, List.length_append]
      rfl
  | fatal trivia read =>
      rw [trivia, ← List.append_assoc] at joined
      rw [← List.append_assoc]
      apply Segmented.fatal _ read
      rw [joined, List.length_append]
      rfl
  | segment trivia read mild more =>
      rw [trivia, ← List.append_assoc] at joined
      rw [← List.append_assoc]
      apply Segmented.segment _ read mild more
      rw [joined, List.length_append]
      rfl

theorem Segmented.append {p : Profile} {cs ds gap : List Char} {front back : List Segment}
    {ending : Ending} (line : cs ≠ [] → cs.getLast? = some '\n')
    (cut : Segmented p cs front (.finished gap)) (further : Segmented p ds back ending) :
    Segmented p (cs ++ ds) (front ++ widenFirst gap back) (widenLast gap back ending) := by
  -- What is left behind a segment is empty or ends with a full line again, which is why the lines
  -- may be empty here.
  generalize finish : Ending.finished gap = last at cut
  induction cut with
  | finished trivia =>
      cases finish
      apply Segmented.widen _ further
      rw [Trivia.gap_line ds line trivia, if_pos rfl]
  | unclosed => cases finish
  | fatal => cases finish
  | @segment own tail left head reading segments last trivia read mild more ih =>
      have whole := line (by simp)
      have short : own.length ≠ (own ++ head :: (tail ++ left)).length := by simp
      have begins := Trivia.gap_line ds line trivia
      rw [if_neg short] at begins
      have dark := (Trivia.item_eq_none_iff.1 (Trivia.isTrivia_of_closed trivia).2).1
      have behind : (tail ++ left).getLast? = some '\n' := by
        rw [List.getLast?_append_of_ne_nil _ (by simp)] at whole
        cases rest : tail ++ left with
        | nil =>
            rw [rest] at whole
            obtain rfl : head = '\n' := by simpa using whole
            exact absurd (by decide) dark
        | cons d rest' => rwa [rest, List.getLast?_cons_cons] at whole
      have later : left ≠ [] → left.getLast? = some '\n' := by
        intro remains
        rwa [List.getLast?_append_of_ne_nil _ remains] at behind
      have same : Lexeme.read p head (tail ++ left ++ ds) = ⟨tail.length, reading⟩ := by
        rw [Lexeme.read_line ds behind (by rw [read]; exact mild), read]
      rw [List.append_assoc, List.cons_append, List.append_assoc] at begins ⊢
      rw [List.append_assoc] at same
      exact .segment begins same mild (ih later finish)

def literalsIn (segments : List Segment) : Nat := (segments.map Segment.literalCount).sum

theorem literalsIn_cons (s : Segment) (segments : List Segment) :
    literalsIn (s :: segments) = s.literalCount + literalsIn segments := by
  rw [literalsIn, List.map_cons, List.sum_cons]
  rfl

theorem extent_append (front back : List Segment) :
    extent (front ++ back) = extent front + extent back := by
  rw [extent, List.flatMap_append, List.length_append]
  rfl

theorem layout_append (i k : Nat) (front back : List Segment) :
    layout i k (front ++ back)
      = layout i k front ++ layout (i + extent front) (k + literalsIn front) back := by
  induction front generalizing i k with
  | nil => rfl
  | cons s front ih =>
      rw [List.cons_append, layout, ih, layout, extent_cons, literalsIn_cons, Nat.add_assoc,
        Nat.add_assoc, List.cons_append]

def Placed.moved (scalars literals : Nat) (x : Placed) : Placed :=
  ⟨x.segment, scalars + x.start, literals + x.literals⟩

namespace Placed

@[simp] theorem segment_moved (n m : Nat) (x : Placed) : (x.moved n m).segment = x.segment := rfl

@[simp] theorem text_moved (n m : Nat) (x : Placed) : (x.moved n m).text = x.text := rfl

@[simp] theorem literals_moved (n m : Nat) (x : Placed) :
    (x.moved n m).literals = m + x.literals := rfl

theorem stop_moved (n m : Nat) (x : Placed) : (x.moved n m).stop = n + x.stop := Nat.add_assoc _ _ _

end Placed

theorem layout_moved (n m i k : Nat) (segments : List Segment) :
    layout (n + i) (m + k) segments = (layout i k segments).map (Placed.moved n m) := by
  induction segments generalizing i k with
  | nil => rfl
  | cons s segments ih =>
      rw [layout, layout, List.map_cons, Nat.add_assoc, Nat.add_assoc, Nat.add_assoc, ih]
      rfl

theorem map_layout_widenFirst {α : Type} {found : Placed → α}
    (blind : ∀ gap s i k, found ⟨Segment.widen gap s, i, k⟩ = found ⟨s, i, k⟩) (gap : List Char)
    (i k : Nat) (segments : List Segment) :
    (layout i k (widenFirst gap segments)).map found
      = (layout (i + gap.length) k segments).map found := by
  cases segments with
  | nil => rfl
  | cons s segments =>
      have start : i + (s.widen gap).gap.length = i + gap.length + s.gap.length := by
        rw [Segment.widen, List.length_append, Nat.add_assoc]
      rw [widenFirst, layout, layout, List.map_cons, List.map_cons, blind, s.length_widen, start,
        ← Nat.add_assoc]
      rfl

theorem map_layout_append {α : Type} {found : Placed → α}
    (blind : ∀ gap s i k, found ⟨Segment.widen gap s, i, k⟩ = found ⟨s, i, k⟩) (gap : List Char)
    (front back : List Segment) :
    (layout 0 0 (front ++ widenFirst gap back)).map found
      = (layout 0 0 front).map found ++ (layout 0 0 back).map
        (fun y => found (y.moved (extent front + gap.length) (literalsIn front))) := by
  have down : layout (extent front + gap.length) (literalsIn front) back
      = (layout 0 0 back).map (Placed.moved (extent front + gap.length) (literalsIn front)) :=
    layout_moved (extent front + gap.length) (literalsIn front) 0 0 back
  calc
    _ = (layout 0 0 front).map found
        ++ (layout (extent front) (literalsIn front) (widenFirst gap back)).map found := by
      rw [layout_append, List.map_append, Nat.zero_add, Nat.zero_add]
    _ = (layout 0 0 front).map found
        ++ (layout (extent front + gap.length) (literalsIn front) back).map found := by
      rw [map_layout_widenFirst blind]
    _ = _ := by
      rw [down, List.map_map]
      rfl

/-- The last scan comes where it came, however the trivia in front of it is shared out. -/
theorem scanned_widenLast (chars gap : List Char) (i : Nat) (segments : List Segment)
    (ending : Ending) :
    (widenLast gap segments ending).scanned chars (i + extent (widenFirst gap segments))
      = ending.scanned chars (i + gap.length + extent segments) := by
  cases segments with
  | nil =>
      rw [widenFirst, widenLast]
      cases ending with
      | finished own => simp [Ending.widen, Ending.scanned, Nat.add_assoc, Nat.add_left_comm]
      | fatal own head tail left fault =>
          simp [Ending.widen, Ending.scanned, Nat.add_assoc, Nat.add_left_comm]
  | cons s segments =>
      rw [widenFirst, widenLast, extent_cons, extent_cons, s.length_widen, Nat.add_assoc,
        Nat.add_assoc]

structure Displacement where
  bytes : Nat
  lines : Nat
  literals : Nat

def Displacement.behind (cs : List Char) (literals : Nat) : Displacement :=
  ⟨(Utf8.encode cs).length, (Position.within cs cs.length).line - 1, literals⟩

def Span.displace (d : Displacement) (span : Span) : Span :=
  ⟨span.start + d.bytes, span.stop + d.bytes, span.line + d.lines, span.column⟩

/-- Only literals have handles, and handle 0 is no literal's. -/
def Token.displace (d : Displacement) (t : Token) : Token :=
  { t with
    span := t.span.displace d
    handle := if t.handle = 0 then 0 else t.handle + d.literals }

def Diagnostic.displace (d : Displacement) (x : Diagnostic) : Diagnostic :=
  { x with span := x.span.displace d }

def Literal.Entry.displace (d : Displacement) (entry : Literal.Entry) : Literal.Entry :=
  { entry with span := entry.span.displace d }

def LexError.displace (d : Displacement) (e : LexError) : LexError :=
  { e with span := e.span.displace d }

def Scanned.displace (d : Displacement) : Scanned → Scanned
  | token t => token (t.displace d)
  | fatal e => fatal (e.displace d)

theorem Scanned.token?_displace (d : Displacement) (scanned : Scanned) :
    (scanned.displace d).token? = scanned.token?.map (Token.displace d) := by
  cases scanned <;> rfl

theorem Scanned.error?_displace (d : Displacement) (scanned : Scanned) :
    (scanned.displace d).error? = scanned.error?.map (LexError.displace d) := by
  cases scanned <;> rfl

theorem ofError_displace (d : Displacement) (e : LexError) :
    Diagnostic.ofError (.lexical (e.displace d)) (e.displace d).span
      = (Diagnostic.ofError (.lexical e) e.span).displace d := rfl

section Longer

variable {cs : List Char} (ds : List Char) (line : cs.getLast? = some '\n')

include line

theorem spanTo_moved (i j m : Nat) :
    (Position.within (cs ++ ds) (cs.length + i)).spanTo (Position.within (cs ++ ds) (cs.length + j))
      = ((Position.within ds i).spanTo (Position.within ds j)).displace (.behind cs m) := by
  rw [Position.within_append cs ds i line, Position.within_append cs ds j line]
  rfl

theorem Placed.span_moved (y : Placed) (m : Nat) :
    (y.moved cs.length m).span (cs ++ ds) = (y.span ds).displace (.behind cs m) := by
  rw [Placed.span, Placed.stop_moved]
  exact spanTo_moved ds line y.start y.stop m

theorem Placed.token_moved (y : Placed) (m : Nat) :
    (y.moved cs.length m).token (cs ++ ds) = (y.token ds).displace (.behind cs m) := by
  have span := y.span_moved ds line m
  cases reading : y.segment.reading with
  | literal =>
      have number : m + y.literals + 1 = y.literals + 1 + (Displacement.behind cs m).literals := by
        rw [Nat.add_assoc, Nat.add_comm]
        rfl
      simp [Placed.token, Token.displace, reading, span, number]
  | _ => simp [Placed.token, Token.displace, reading, span]

theorem Placed.diagnostic?_moved (y : Placed) (m : Nat) :
    (y.moved cs.length m).diagnostic? (cs ++ ds)
      = (y.diagnostic? ds).map (Diagnostic.displace (.behind cs m)) := by
  have span := y.span_moved ds line m
  cases reading : y.segment.reading with
  | badWord index flaw =>
      have spot := spanTo_moved ds line (y.start + index) y.stop m
      rw [← Nat.add_assoc, ← Placed.stop_moved cs.length m y] at spot
      simp only [Placed.diagnostic?, Placed.segment_moved, reading, Option.map_some]
      exact congrArg some (congrArg (Diagnostic.ofError (.identifier _)) spot)
  | malformed fault =>
      simp only [Placed.diagnostic?, Placed.segment_moved, reading, span, Option.map_some]
      rfl
  | _ => simp [Placed.diagnostic?, reading]

theorem Placed.literal?_moved (y : Placed) (m : Nat) :
    (y.moved cs.length m).literal? (cs ++ ds)
      = (y.literal? ds).map (Literal.Entry.displace (.behind cs m)) := by
  have span := y.span_moved ds line m
  cases reading : y.segment.reading with
  | literal => simp [Placed.literal?, reading, span, Literal.Entry.displace]
  | _ => simp [Placed.literal?, reading]

theorem Ending.scanned_moved (ending : Ending) (i m : Nat) :
    ending.scanned (cs ++ ds) (cs.length + i) = (ending.scanned ds i).displace (.behind cs m) := by
  cases ending with
  | finished gap =>
      have span := spanTo_moved ds line (i + gap.length) (i + gap.length) m
      rw [← Nat.add_assoc] at span
      simp only [Ending.scanned, span]
      rfl
  | fatal gap head tail left fault =>
      have span := spanTo_moved ds line (i + gap.length) (i + gap.length + (tail.length + 1)) m
      simp only [Nat.add_assoc] at span
      simp only [Ending.scanned, Scanned.displace, LexError.displace, Nat.add_assoc, span]

theorem Placed.span_append {x : Placed} (inside : x.stop ≤ cs.length) :
    x.span (cs ++ ds) = x.span cs := by
  have start : x.start ≤ cs.length := Nat.le_trans (Nat.le_add_right _ _) inside
  simp only [Placed.span, Position.within, Position.advance_append .first ds line start,
    Position.advance_append .first ds line inside]

theorem Placed.token_append {x : Placed} (inside : x.stop ≤ cs.length) :
    x.token (cs ++ ds) = x.token cs := by
  simp only [Placed.token, x.span_append ds line inside]

theorem Placed.diagnostic?_append {x : Placed} (inside : x.stop ≤ cs.length)
    (index : ∀ i flaw, x.segment.reading = .badWord i flaw → i ≤ x.segment.lexeme.length) :
    x.diagnostic? (cs ++ ds) = x.diagnostic? cs := by
  cases reading : x.segment.reading with
  | badWord i flaw =>
      have spot : x.start + i ≤ cs.length :=
        Nat.le_trans (Nat.add_le_add_left (index i flaw reading) _) inside
      simp only [Placed.diagnostic?, reading, Position.within,
        Position.advance_append .first ds line spot, Position.advance_append .first ds line inside]
  | malformed fault => simp only [Placed.diagnostic?, reading, x.span_append ds line inside]
  | _ => simp only [Placed.diagnostic?, reading]

theorem Placed.literal?_append {x : Placed} (inside : x.stop ≤ cs.length) :
    x.literal? (cs ++ ds) = x.literal? cs := by
  simp only [Placed.literal?, x.span_append ds line inside]

end Longer

theorem Source.stripMark_append {a b front : Bytes} (last : a = front ++ [0x0A]) :
    stripMark (a ++ b) = ((stripMark a).1, (stripMark a).2 ++ b) := by
  have same : byteOrderMark <+: a ++ b ↔ byteOrderMark <+: a := by
    constructor
    · intro mark
      rcases List.prefix_or_prefix_of_prefix mark (List.prefix_append a b) with short | long
      · exact short
      · have inside : (0x0A : UInt8) ∈ byteOrderMark := long.subset (by simp [last])
        exact absurd inside (by decide)
    · intro mark
      exact mark.trans (List.prefix_append a b)
  unfold stripMark
  simp only [List.isPrefixOf_iff_prefix, same]
  split
  next mark => rw [List.drop_append_of_le_length mark.length_le]
  next => rfl

theorem Source.stripMark_suffix (input : Bytes) : (stripMark input).2 <:+ input := by
  unfold stripMark
  split
  · exact List.drop_suffix _ _
  · exact List.suffix_refl _

theorem Source.read_append {a b : Bytes} {first second : Source} (decoded : read a = .ok first)
    (further : read b = .ok second) (line : first.chars.getLast? = some '\n')
    (unmarked : ¬ byteOrderMark <+: b) :
    read (a ++ b) = .ok ⟨first.bom, first.text ++ second.text, first.chars ++ second.chars⟩ := by
  rw [read_eq_ok_iff] at decoded further ⊢
  obtain ⟨marked, encoded⟩ := decoded
  obtain ⟨unstripped, encoded'⟩ := further
  have whole : second.text = b := by
    rw [stripMark, if_neg (by rwa [List.isPrefixOf_iff_prefix])] at unstripped
    exact (congrArg Prod.snd unstripped).symm
  obtain ⟨front, last⟩ : ∃ front, a = front ++ [0x0A] := by
    obtain ⟨lines, split⟩ := List.getLast?_eq_some_iff.1 line
    obtain ⟨mark, rejoined⟩ := stripMark_suffix a
    rw [marked, encoded, split, Utf8.encode_append, ← List.append_assoc] at rejoined
    exact ⟨_, rejoined.symm⟩
  rw [stripMark_append last, marked, whole]
  refine ⟨rfl, ?_⟩
  rw [Utf8.encode_append, ← encoded, ← encoded', whole]

theorem length_literals (chars : List Char) (i k : Nat) (segments : List Segment) :
    ((layout i k segments).filterMap (Placed.literal? chars)).length = literalsIn segments := by
  induction segments generalizing i k with
  | nil => rfl
  | cons s segments ih =>
      have later := ih (i + s.chars.length) (k + s.literalCount)
      rw [layout, literalsIn_cons, List.filterMap_cons, ← later]
      cases reading : s.reading with
      | literal =>
          simp only [Placed.literal?, Segment.literalCount, reading, List.length_cons]
          exact Nat.add_comm _ _
      | _ => simp [Placed.literal?, Segment.literalCount, reading]

/-- The result `whole` is the tokens `front` and all else of `first`, and then `second`, displaced
by `d`. -/
structure Tokenized.Joins (first second whole : Tokenized) (front : List Token) (d : Displacement) :
    Prop where
  tokens : whole.tokens = front ++ second.tokens.map (Token.displace d)
  diagnostics : whole.diagnostics
    = first.diagnostics ++ second.diagnostics.map (Diagnostic.displace d)
  literals : whole.literals.entries
    = first.literals.entries ++ second.literals.entries.map (Literal.Entry.displace d)
  fatal : (second.fatal = none ∧ whole.fatal = none)
    ∨ ∃ e, second.fatal = some (.lexical e) ∧ whole.fatal = some (.lexical (e.displace d))

section Joined

variable {p : Profile} {cs gap : List Char} {front : List Segment}

theorem Segmented.map_found {α : Type} {displace : α → α}
    (cut : Segmented p cs front (.finished gap)) (ds : List Char) (back : List Segment)
    (found : List Char → Placed → α)
    (blind : ∀ gap s i k, found (cs ++ ds) ⟨Segment.widen gap s, i, k⟩ = found (cs ++ ds) ⟨s, i, k⟩)
    (own : ∀ x ∈ layout 0 0 front, found (cs ++ ds) x = found cs x)
    (moved : ∀ y, found (cs ++ ds) (y.moved cs.length (literalsIn front)) = displace (found ds y)) :
    (layout 0 0 (front ++ widenFirst gap back)).map (found (cs ++ ds))
      = (layout 0 0 front).map (found cs) ++ ((layout 0 0 back).map (found ds)).map displace := by
  rw [map_layout_append blind, cut.extent_finished, List.map_congr_left own, List.map_map]
  simp only [moved]
  rfl

theorem Segmented.filterMap_found {α : Type} {displace : α → α}
    (cut : Segmented p cs front (.finished gap)) (ds : List Char) (back : List Segment)
    (found : List Char → Placed → Option α)
    (blind : ∀ gap s i k, found (cs ++ ds) ⟨Segment.widen gap s, i, k⟩ = found (cs ++ ds) ⟨s, i, k⟩)
    (own : ∀ x ∈ layout 0 0 front, found (cs ++ ds) x = found cs x)
    (moved : ∀ y, found (cs ++ ds) (y.moved cs.length (literalsIn front))
      = (found ds y).map displace) :
    (layout 0 0 (front ++ widenFirst gap back)).filterMap (found (cs ++ ds))
      = (layout 0 0 front).filterMap (found cs)
        ++ ((layout 0 0 back).filterMap (found ds)).map displace := by
  have recorded := congrArg List.reduceOption (cut.map_found ds back found blind own moved)
  rw [List.reduceOption_append, List.reduceOption_map] at recorded
  simpa only [List.reduceOption, List.filterMap_map, Function.id_comp] using recorded

theorem Outlined.joins {ds : List Char} {back : List Segment} {ending : Ending}
    {first second whole : Tokenized} (line : cs.getLast? = some '\n')
    (cut : Segmented p cs front (.finished gap)) (one : Outlined first cs front (.finished gap))
    (two : Outlined second ds back ending)
    (both : Outlined whole (cs ++ ds) (front ++ widenFirst gap back) (widenLast gap back ending)) :
    first.Joins second whole ((layout 0 0 front).map (Placed.token cs))
      (.behind cs (literalsIn front)) := by
  have last : (widenLast gap back ending).scanned (cs ++ ds) (extent (front ++ widenFirst gap back))
      = (ending.scanned ds (extent back)).displace (.behind cs (literalsIn front)) := by
    calc
      _ = ending.scanned (cs ++ ds) (extent front + gap.length + extent back) := by
        rw [extent_append, scanned_widenLast]
      _ = ending.scanned (cs ++ ds) (cs.length + extent back) := by rw [cut.extent_finished]
      _ = _ := ending.scanned_moved ds line (extent back) (literalsIn front)
  constructor
  · have tokens := cut.map_found ds back Placed.token
      (fun _ _ _ _ => rfl) (fun x member => x.token_append ds line (cut.stop_le member))
      (fun y => y.token_moved ds line (literalsIn front))
    rw [both.tokens, tokens, two.tokens, last, Scanned.token?_displace, List.map_append,
      Option.toList_map, List.append_assoc]
  · have index {x : Placed} (member : x ∈ layout 0 0 front) (i : Nat) (flaw : IdentifierFlaw)
        (bad : x.segment.reading = .badWord i flaw) : i ≤ x.segment.lexeme.length :=
      Nat.le_succ_of_le (cut.index_le (segment_of_mem_layout member) bad)
    have reported := cut.filterMap_found ds back Placed.diagnostic?
      (fun _ _ _ _ => rfl)
      (fun x member => x.diagnostic?_append ds line (cut.stop_le member) (index member))
      (fun y => y.diagnostic?_moved ds line (literalsIn front))
    rw [both.diagnostics, reported, one.diagnostics, two.diagnostics, last,
      Scanned.error?_displace, List.map_append]
    cases (ending.scanned ds (extent back)).error? with
    | none => simp [Ending.scanned, Scanned.error?]
    | some e => simp [Ending.scanned, Scanned.error?, ofError_displace]
  · have recorded := cut.filterMap_found ds back Placed.literal?
      (fun _ _ _ _ => rfl) (fun x member => x.literal?_append ds line (cut.stop_le member))
      (fun y => y.literal?_moved ds line (literalsIn front))
    apply Array.toList_inj.1
    rw [both.literals, recorded, Array.toList_append, Array.toList_map, one.literals, two.literals]
  · rw [both.fatal, two.fatal, last, Scanned.error?_displace]
    cases found : (ending.scanned ds (extent back)).error? with
    | none => exact .inl ⟨rfl, rfl⟩
    | some e => exact .inr ⟨e, rfl, rfl⟩

end Joined

/-- Where a source of full lines is read without a fatal error, a source behind it is read as it is
on its own: its tokens, diagnostics, literals and fatal error follow those of the lines, moved down
by their bytes, line breaks and literals. -/
theorem tokenize_behind_lines (name : Bytes) (settings : Settings) {a b : Bytes}
    {first second : Source} (decoded : Source.read a = .ok first)
    (further : Source.read b = .ok second) (line : first.chars.getLast? = some '\n')
    (unmarked : ¬ Source.byteOrderMark <+: b) (sound : (tokenize name settings a).fatal = none) :
    ∃ front last, (tokenize name settings a).tokens = front ++ [last] ∧ last.kind = .endOfInput ∧
      (tokenize name settings a).Joins (tokenize name settings b) (tokenize name settings (a ++ b))
        front ⟨first.text.length, last.span.line - 1, (tokenize name settings a).literals.size⟩ := by
  obtain ⟨segments, finish, cut⟩ := exists_segmented settings.profile first.chars
  obtain ⟨others, ending, cut'⟩ := exists_segmented settings.profile second.chars
  have one := cut.outlined name decoded
  have two := cut'.outlined name further
  obtain ⟨gap, rfl⟩ := one.finished sound
  have both := (cut.append (fun _ => line) cut').outlined name
    (Source.read_append decoded further line unmarked)
  have count : (tokenize name settings a).literals.size = literalsIn segments := by
    rw [LiteralTable.size, ← Array.length_toList, one.literals, length_literals]
  have joins := one.joins line cut two both
  rw [Displacement.behind, ← (Source.read_eq_ok_iff.1 decoded).2, ← cut.extent_finished,
    ← count] at joins
  exact ⟨_, _, one.tokens, rfl, joins⟩

theorem tokenize_behind_literal_line :
    let a := ['"', '"', '\n']
    let b := ['/', '*', '*', '/', '"', 'é']
    let settings : Settings := ⟨[], .unicode⟩
    Source.read (Utf8.encode a) = .ok ⟨false, Utf8.encode a, a⟩ ∧
      Source.read (Utf8.encode b) = .ok ⟨false, Utf8.encode b, b⟩ ∧
      (tokenize [] settings (Utf8.encode a)).fatal = none ∧
      ∃ front last, (tokenize [] settings (Utf8.encode a)).tokens = front ++ [last] ∧
        last.kind = .endOfInput ∧
        (tokenize [] settings (Utf8.encode a)).Joins (tokenize [] settings (Utf8.encode b))
          (tokenize [] settings (Utf8.encode a ++ Utf8.encode b)) front
          ⟨(Utf8.encode a).length, last.span.line - 1,
            (tokenize [] settings (Utf8.encode a)).literals.size⟩ := by
  intro a b settings
  have decoded : Source.read (Utf8.encode a) = .ok ⟨false, Utf8.encode a, a⟩ :=
    Source.read_encode (by decide)
  have further : Source.read (Utf8.encode b) = .ok ⟨false, Utf8.encode b, b⟩ :=
    Source.read_encode (by decide)
  have gap : Trivia.gap ['\n'] = .closed 1 := Trivia.gap_white (by decide) rfl
  have cut : Segmented settings.profile a [⟨[], '"', ['"'], .literal⟩] (.finished ['\n']) := by
    change Segmented _ ([] ++ '"' :: (['"'] ++ ['\n'])) _ _
    exact .segment (Trivia.gap_of_none rfl) rfl (by simp) (.finished gap)
  have sound := cut.fatal_eq_none [] decoded
  exact ⟨decoded, further, sound,
    tokenize_behind_lines [] settings decoded further rfl (by decide) sound⟩

end AsnLexis
