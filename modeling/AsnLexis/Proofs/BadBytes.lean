import AsnLexis.Proofs.Carets
import AsnLexis.Proofs.Decoding
import Mathlib

/-! The diagnostic of a source unit that is not well formed. It starts at the first bad byte of the
text, and the line printed for it from this text is the one that holds the byte. A byte order mark
is not counted, so in an input with one the byte is found three bytes further on. -/

namespace AsnLexis

namespace Utf8

theorem WellFormed.append {front back : Bytes} (first : WellFormed front)
    (second : WellFormed back) : WellFormed (front ++ back) := by
  induction first with
  | nil => exact second
  | cons form _ ih =>
      rw [List.append_assoc]
      exact .cons form ih

theorem WellFormed.cancel {front back : Bytes} (first : WellFormed front)
    (both : WellFormed (front ++ back)) : WellFormed back := by
  obtain ⟨cs, rfl⟩ := wellFormed_iff.1 first
  obtain ⟨ds, encoded⟩ := wellFormed_iff.1 both
  have whole := congrArg pieces encoded
  rw [pieces_encode_append, pieces_encode] at whole
  obtain ⟨_, es, _, _, rest⟩ := List.map_eq_append_iff.1 whole.symm
  refine wellFormed_iff.2 ⟨es, ?_⟩
  rw [← flatMap_bytes_pieces back, ← rest, List.flatMap_map]
  rfl

theorem wellFormed_byteOrderMark : WellFormed Source.byteOrderMark :=
  wellFormed_iff.2 ⟨['\uFEFF'], by decide⟩

theorem Malformed.Marks.behind {e : Malformed} {text front : Bytes} (marks : e.Marks text)
    (formed : WellFormed front) : Marks ⟨front.length + e.offset, e.byte⟩ (front ++ text) where
  malformed both := marks.malformed (formed.cancel both)
  front := by
    rw [List.take_length_add_append]
    exact formed.append marks.front
  longest := by
    intro part shorter formedPart
    by_cases inside : part.length ≤ front.length
    · exact Nat.le_add_right_of_le inside
    · obtain ⟨more, rfl⟩ : front <+: part :=
        List.prefix_of_prefix_length_le (List.prefix_append front text) shorter
          (Nat.le_of_not_le inside)
      have rest := marks.longest more ((List.prefix_append_right_inj front).1 shorter)
        (formed.cancel formedPart)
      rw [List.length_append]
      exact Nat.add_le_add_left rest _
  byte := by
    rw [List.getElem?_append_right (Nat.le_add_right _ _), Nat.add_sub_cancel_left]
    exact marks.byte

theorem Malformed.Marks.high {e : Malformed} {text : Bytes} (marks : e.Marks text) :
    0x7F < e.byte := by
  by_contra low
  have form : IsForm [e.byte] := by
    refine ⟨[(0x00, 0x7F)], List.mem_cons_self, .cons ⟨?_, ?_⟩ .nil⟩
    · exact UInt8.zero_le
    · exact UInt8.not_lt.1 low
  have whole : text.take (e.offset + 1) = text.take e.offset ++ [e.byte] := by
    rw [List.take_add_one, marks.byte]
    rfl
  have formed : WellFormed (text.take (e.offset + 1)) := by
    rw [whole]
    exact marks.front.append (.cons form .nil)
  have bound := marks.longest _ (List.take_prefix _ _) formed
  have inside := (List.getElem?_eq_some_iff.1 marks.byte).1
  rw [List.length_take_of_le inside] at bound
  omega

end Utf8

namespace Diagnostic

/-- The last text is the line of the first around its byte at an offset. -/
inductive LineAround : Bytes → Nat → UInt8 → Bytes → Prop
  | mk {above before after below : Bytes} {b : UInt8}
      (inLine : ∀ x ∈ before ++ b :: after, ¬ isBreakByte x)
      (top : ∀ x ∈ above.getLast?, isBreakByte x) (bottom : ∀ x ∈ below.head?, isBreakByte x) :
      LineAround (above ++ (before ++ b :: after) ++ below) (above ++ before).length b
        (before ++ b :: after)

theorem lineAround_lineAt {text : Bytes} {start : Nat} {b : UInt8} (here : text[start]? = some b)
    (inLine : ¬ isBreakByte b) : LineAround text start b (lineAt text start) := by
  have holds : (!isBreakByte b) = true := by simpa using inLine
  obtain ⟨above, below, whole, stretch, top, bottom, length⟩ :=
    exists_stretch (p := (!isBreakByte ·)) here holds
  have line : lineAt text start = (text.take start).rtakeWhile (!isBreakByte ·)
      ++ b :: (text.drop (start + 1)).takeWhile (!isBreakByte ·) := by
    obtain ⟨bound, rfl⟩ := List.getElem?_eq_some_iff.1 here
    rw [lineAt, if_neg (by omega), List.drop_eq_getElem_cons bound,
      List.takeWhile_cons, if_pos holds]
    rfl
  rw [line]
  generalize (text.take start).rtakeWhile (!isBreakByte ·) = before at *
  generalize (text.drop (start + 1)).takeWhile (!isBreakByte ·) = after at *
  subst whole length
  exact .mk (by simpa using stretch) (by simpa using top) (by simpa using bottom)

theorem lineAt_infix_print (d : Diagnostic) (name text : Bytes) :
    Layout.line (indent ++ lineAt text d.span.start) <:+: d.print name text := by
  rw [print, List.append_assoc]
  exact List.infix_append _ _ _

end Diagnostic

def Source.mark (bom : Bool) : Bytes := if bom then byteOrderMark else []

theorem Source.Strips.eq_append {input text : Bytes} {bom : Bool}
    (strips : Strips input bom text) : input = mark bom ++ text := by
  cases strips <;> rfl

theorem Source.wellFormed_mark (bom : Bool) : Utf8.WellFormed (mark bom) := by
  cases bom with
  | false => exact .nil
  | true => exact Utf8.wellFormed_byteOrderMark

theorem not_isBreakByte_of_high {b : UInt8} (high : 0x7F < b) :
    ¬ Diagnostic.isBreakByte b := by
  have beyond : ¬ b ≤ 0x0D := UInt8.not_le.2 (UInt8.lt_trans (by decide) high)
  simp [Diagnostic.isBreakByte, beyond]

/-- An input that is not well formed gives no source, no tokens and no literals, and one diagnostic.
It is fatal, about encoding, and starts at the first bad byte, as counted behind the byte order mark
if there is one; what is printed of it with the text behind the mark shows the line that holds the
byte. Without a mark this text is the whole input, which is what a source unit that is not decoded
is printed with. -/
theorem bad_bytes_shown (name : Bytes) (settings : Settings) {input : Bytes}
    (malformed : ¬ Utf8.WellFormed input) :
    let r := tokenize name settings input
    ∃ bom text e d, Source.Strips input bom text ∧
      Utf8.Malformed.Marks ⟨(Source.mark bom).length + e.offset, e.byte⟩ input ∧
      r.source = none ∧ r.tokens = [] ∧ r.literals = {} ∧ r.fatal = some (.encoding e) ∧
      r.diagnostics = [d] ∧ d.fatal ∧ d.code = utf8 Code.encoding.name ∧
      d.span.start = e.offset ∧ text[d.span.start]? = some e.byte ∧
      Diagnostic.LineAround text d.span.start e.byte (Diagnostic.lineAt text d.span.start) ∧
      (∀ file, Layout.line (Diagnostic.indent ++ Diagnostic.lineAt text d.span.start)
        <:+: d.print file text) ∧
      r.text input = input ∧ (bom = false → text = input) := by
  intro r
  have strips := Source.strips_stripMark input
  have whole := strips.eq_append
  cases read : Source.read input with
  | ok source =>
      have formed := Source.exists_read_iff.1 ⟨source, read⟩
      refine absurd ?_ malformed
      rw [whole]
      exact (Source.wellFormed_mark _).append formed
  | error e =>
      have result : r = .malformed name settings e := by
        change tokenize name settings input = _
        rw [tokenize, read]
      have marks := Source.marks_of_read read
      have behind := marks.behind (Source.wellFormed_mark (Source.stripMark input).1)
      rw [← whole] at behind
      have line := Diagnostic.lineAround_lineAt marks.byte (not_isBreakByte_of_high marks.high)
      rw [result]
      refine ⟨_, _, e, .ofError (.encoding e) ⟨e.offset, e.offset + 1, 0, 0⟩, strips, behind, rfl,
        rfl, rfl, rfl, rfl, rfl, code_ofError rfl rfl _, rfl, marks.byte, line, ?_, rfl, ?_⟩
      · intro file
        exact Diagnostic.lineAt_infix_print _ file _
      · intro plain
        rw [plain] at whole
        exact whole.symm

theorem bad_bytes_shown_second_line :
    let input : Bytes := [0x41, 0x0A, 0x42, 0xFF, 0x43, 0x0D, 0x44]
    let r := tokenize [] ⟨[], .unicode⟩ input
    ¬ Utf8.WellFormed input ∧ ∃ d, r.diagnostics = [d] ∧ input[d.span.start]? = some 0xFF ∧
      ∀ file, Layout.line (Diagnostic.indent ++ [0x42, 0xFF, 0x43])
        <:+: d.print file (r.text input) := by
  intro input r
  have read : Source.read input = .error ⟨3, 0xFF⟩ := by cbv
  have malformed : ¬ Utf8.WellFormed input := (Source.marks_of_read read).malformed
  have result : tokenize [] ⟨[], .unicode⟩ input = .malformed [] ⟨[], .unicode⟩ ⟨3, 0xFF⟩ := by
    rw [tokenize, read]
  obtain ⟨bom, text, e, d, strips, _, _, _, _, fatal, found, _, _, start, byte, _, shown, whole,
    plain⟩ := bad_bytes_shown [] ⟨[], .unicode⟩ malformed
  have unmarked : bom = false := by
    cases bom with
    | false => rfl
    | true =>
        have first : some (0x41 : UInt8) = some 0xEF := congrArg List.head? strips.eq_append
        exact absurd first (by decide)
  obtain rfl := plain unmarked
  rw [result] at fatal
  cases fatal
  have line : Diagnostic.lineAt input d.span.start = [0x42, 0xFF, 0x43] := by
    rw [start]
    decide
  refine ⟨malformed, d, found, byte, fun file => ?_⟩
  change Layout.line _ <:+: d.print file ((tokenize [] ⟨[], .unicode⟩ input).text input)
  rw [whole, ← line]
  exact shown file

/-- Behind a byte order mark, the diagnostic starts three bytes in front of the bad byte of the
input, and the line that is shown for it from the input is another one. -/
theorem bad_byte_missed_behind_mark :
    let input : Bytes := [0xEF, 0xBB, 0xBF, 0x0A, 0xFF]
    let r := tokenize [] ⟨[], .unicode⟩ input
    ∃ e d, r.fatal = some (.encoding e) ∧ r.diagnostics = [d] ∧ e.byte = 0xFF ∧
      r.text input = input ∧ input[d.span.start]? = some 0xBB ∧
      Diagnostic.lineAt (r.text input) d.span.start = [0xEF, 0xBB, 0xBF] := by
  intro input r
  have read : Source.read input = .error ⟨1, 0xFF⟩ := by cbv
  have result : r = .malformed [] ⟨[], .unicode⟩ ⟨1, 0xFF⟩ := by
    change tokenize [] _ input = _
    rw [tokenize, read]
  rw [result]
  exact ⟨⟨1, 0xFF⟩, _, rfl, rfl, rfl, rfl, by decide, by decide⟩

end AsnLexis
