import AsnLexis.Proofs.Spelling
import Mathlib

/-! Marks are read by longest match. The table of marks lists a longer mark before those that it
begins with, so the first one that stands in front of the lexer is the longest; and a character
begins a mark of the table just when it is a punctuation character, so there is always one. -/

namespace AsnLexis

namespace Kind

structure IsLongest (text : List Char) (mark : List Char × Kind) : Prop where
  listed : mark ∈ operators
  front : mark.1 <+: text
  longest : ∀ other ∈ operators, other.1 <+: text → other.1.length ≤ mark.1.length

theorem pairwise_operators :
    operators.Pairwise (fun earlier later => ¬ earlier.1 <+: later.1) := by decide

/-- In a table where no entry begins with an earlier one, the first entry at the front of a text is
longer than all others there. -/
theorem eq_or_shorter_of_find? {table : List (List Char × Kind)}
    (ordered : table.Pairwise (fun earlier later => ¬ earlier.1 <+: later.1)) {text : List Char}
    {mark : List Char × Kind} (found : table.find? (·.1.isPrefixOf text) = some mark)
    {other : List Char × Kind} (member : other ∈ table) (front : other.1 <+: text) :
    other = mark ∨ other.1.length < mark.1.length := by
  obtain ⟨first, earlier, later, rfl, before⟩ := List.find?_eq_some_iff_append.1 found
  rw [List.isPrefixOf_iff_prefix] at first
  rcases List.mem_append.1 member with passed | behind
  · have absent := before other passed
    rw [List.isPrefixOf_iff_prefix.2 front] at absent
    cases absent
  rcases List.mem_cons.1 behind with same | behind
  · exact .inl same
  · right
    by_contra long
    have begins : mark.1 <+: other.1 :=
      List.prefix_of_prefix_length_le first front (Nat.not_lt.1 long)
    have apart := (List.pairwise_cons.1 (List.pairwise_append.1 ordered).2.1).1 other behind
    exact apart begins

theorem operator?_eq_some_iff {text : List Char} {mark : List Char × Kind} :
    operator? text = some mark ↔ IsLongest text mark := by
  constructor
  · intro found
    obtain ⟨listed, front⟩ := Lexeme.operator?_eq_some found
    refine ⟨listed, front, ?_⟩
    intro other member inside
    rcases eq_or_shorter_of_find? pairwise_operators found member inside with rfl | shorter
    · exact Nat.le_refl _
    · exact Nat.le_of_lt shorter
  · intro longest
    have some : (operator? text).isSome := by
      rw [operator?, List.find?_isSome]
      exact ⟨mark, longest.listed, List.isPrefixOf_iff_prefix.2 longest.front⟩
    obtain ⟨first, found⟩ := Option.isSome_iff_exists.1 some
    obtain ⟨listed, front⟩ := Lexeme.operator?_eq_some found
    rcases eq_or_shorter_of_find? pairwise_operators found longest.listed longest.front with
      rfl | shorter
    · exact found
    · have bound := longest.longest first listed front
      omega

end Kind

theorem Lexeme.exists_head_of_listed {mark : List Char × Kind} (listed : mark ∈ Kind.operators) :
    ∃ c tail, mark.1 = c :: tail ∧ isPunctuation c := by
  obtain ⟨spelling, kind⟩ := mark
  obtain ⟨c, tail, rfl⟩ := List.exists_cons_of_ne_nil (kind_of_listed listed).1
  exact ⟨c, tail, rfl, (mark_scalars listed).1⟩

namespace Lexer

structure TakesMark (l : Lexer) (chars : List Char) (i : Nat) (mark : List Char × Kind) :
    Prop where
  token : l.next.1 = .token
    { kind := mark.2
      text := Utf8.encode mark.1
      span := (Position.within chars i).spanTo (Position.within chars (i + mark.1.length)) }
  behind : l.next.2.Reads chars (i + mark.1.length)

theorem Reads.takesMark {l : Lexer} {chars : List Char} {i : Nat} (reads : l.Reads chars i)
    {c : Char} (here : chars[i]? = some c) (punctuation : isPunctuation c) :
    ∃ mark, Kind.IsLongest (chars.drop i) mark ∧ l.TakesMark chars i mark := by
  have split : chars.drop i = c :: chars.drop (i + 1) := by
    rw [List.drop_eq_getElem?_toList_append, here]
    rfl
  have front : l.rest = c :: chars.drop (i + 1) := reads.rest.trans split
  obtain ⟨spelling, kind, found, read⟩ :=
    Lexeme.read_punctuation l.profile punctuation (chars.drop (i + 1))
  have longest := Kind.operator?_eq_some_iff.1 found
  obtain ⟨d, tail, spelled, _⟩ := Lexeme.exists_head_of_listed longest.listed
  obtain rfl : spelling = d :: tail := spelled
  obtain ⟨rfl, left, rest⟩ := List.cons_prefix_cons.1 longest.front
  refine ⟨(d :: tail, kind), split ▸ longest, ?_⟩
  have taken : l.next = (l.setAnchor.forward (tail.length + 1)).emit
      { kind
        text := Utf8.encode (d :: tail)
        span := (l.setAnchor.forward (tail.length + 1)).span } := by
    rw [next_cons front, read, List.length_cons, Nat.add_sub_cancel, ← rest, List.take_left]
    rfl
  have after : (l.setAnchor.forward (tail.length + 1)).Reads chars (i + (tail.length + 1)) :=
    Reads.forward (l := l.setAnchor) ⟨reads.rest, reads.here, reads.going⟩ _
  constructor
  · have anchored : (l.setAnchor.forward (tail.length + 1)).anchor = Position.within chars i :=
      reads.here
    rw [taken, emit, span, anchored, after.here]
    rfl
  · rw [taken]
    exact ⟨after.rest, after.here, after.going⟩

end Lexer

/-- The first mark of the table at the front of a text is the longest one there. With a punctuation
character in front of it, wherever that is in a source, the lexer finds a mark, takes the longest,
and goes on as many scalars further as the mark has. Every mark begins with a punctuation
character. -/
theorem marks_munch_maximally :
    (∀ text mark, Kind.operator? text = some mark ↔ Kind.IsLongest text mark) ∧
    (∀ (source : Source) (i : Nat) (c : Char) (l : Lexer), source.chars[i]? = some c →
      isPunctuation c → l.Reads source.chars i →
      ∃ mark, Kind.operator? (source.chars.drop i) = some mark ∧
        Kind.IsLongest (source.chars.drop i) mark ∧ l.TakesMark source.chars i mark) ∧
    ∀ mark ∈ Kind.operators, ∃ c tail, mark.1 = c :: tail ∧ isPunctuation c := by
  refine ⟨fun text mark => Kind.operator?_eq_some_iff, ?_, fun mark => Lexeme.exists_head_of_listed⟩
  intro source i c l here punctuation reads
  obtain ⟨mark, longest, takes⟩ := reads.takesMark here punctuation
  exact ⟨mark, Kind.operator?_eq_some_iff.2 longest, longest, takes⟩

theorem marks_munch_maximally_dots :
    let cs := ['é', '.', '.', '.', '.', '[', '[']
    let source : Source := ⟨false, Utf8.encode cs, cs⟩
    let l := (Lexer.start ⟨[], .ascii⟩ source).forward 1
    let mark := (['.', '.', '.'], Kind.ellipsis)
    source.chars[1]? = some '.' ∧ isPunctuation '.' ∧ l.Reads source.chars 1 ∧
      Kind.operator? (source.chars.drop 1) = some mark ∧
      Kind.IsLongest (source.chars.drop 1) mark ∧ l.TakesMark source.chars 1 mark ∧
      mark ∈ Kind.operators ∧ ∃ c tail, mark.1 = c :: tail ∧ isPunctuation c := by
  intro cs source l mark
  obtain ⟨first, taken, heads⟩ := marks_munch_maximally
  have reads : l.Reads source.chars 1 := (Lexer.reads_start ⟨[], .ascii⟩ source).forward 1
  obtain ⟨other, found, longest, takes⟩ := taken source 1 '.' l rfl (by decide) reads
  obtain rfl : mark = other := Option.some.inj ((by decide : _ = some mark).symm.trans found)
  exact ⟨rfl, by decide, reads, found, longest, takes, longest.listed, heads _ longest.listed⟩

end AsnLexis
