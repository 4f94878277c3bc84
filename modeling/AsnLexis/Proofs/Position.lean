import AsnLexis.Proofs.Utf8
import AsnLexis.Source
import Mathlib

/-! Places in a text. The place of a scalar is found by going over the scalars in front of it, so
the place of the first scalar of a text decides all others, and a text behind a full line is the
text on its own moved down. -/

namespace AsnLexis

namespace Position

attribute [local simp] advance past

def within (chars : List Char) (i : Nat) : Position := first.advance chars i

@[simp] theorem advance_zero (p : Position) (cs : List Char) : p.advance cs 0 = p := by
  cases cs <;> rfl

theorem advance_drop (p : Position) (cs : List Char) (i n : Nat) :
    (p.advance cs i).advance (cs.drop i) n = p.advance cs (i + n) := by
  induction cs generalizing p i with
  | nil => simp
  | cons c cs ih =>
      cases i with
      | zero => simp
      | succ i =>
          rw [Nat.add_right_comm]
          exact ih _ i

theorem offset_past (p : Position) (c : Char) (next : Option Char) :
    (p.past c next).offset = p.offset + Utf8.width c := by
  unfold past
  split <;> rfl

theorem offset_advance (p : Position) (cs ds : List Char) :
    (p.advance (cs ++ ds) cs.length).offset = p.offset + (Utf8.encode cs).length := by
  induction cs generalizing p with
  | nil => simp
  | cons c cs ih =>
      rw [List.cons_append, List.length_cons, advance, ih, offset_past, Utf8.encode_cons,
        List.length_append, Utf8.length_encodeChar, Nat.add_assoc]

theorem offset_le_advance (p : Position) (cs : List Char) (n : Nat) :
    p.offset ≤ (p.advance cs n).offset := by
  induction cs generalizing p n with
  | nil => simp
  | cons c cs ih =>
      cases n with
      | zero => simp
      | succ n =>
          have later := ih (p.past c cs.head?) n
          rw [offset_past] at later
          exact Nat.le_trans (Nat.le_add_right _ _) later

theorem offset_within_le (chars : List Char) {i j : Nat} (order : i ≤ j) :
    (within chars i).offset ≤ (within chars j).offset := by
  obtain ⟨n, rfl⟩ := Nat.exists_eq_add_of_le order
  rw [within, within, ← advance_drop]
  exact offset_le_advance _ _ _

theorem getElem?_scalars (p : Position) (cs : List Char) (i : Nat) :
    (p.scalars cs)[i]? = cs[i]?.map (fun c => ⟨c, p.advance cs i⟩) := by
  induction cs generalizing p i with
  | nil => rfl
  | cons c cs ih =>
      cases i with
      | zero => rfl
      | succ i => simpa only [scalars, List.getElem?_cons_succ, advance] using ih _ i

theorem offset_within (cs ds : List Char) :
    (within (cs ++ ds) cs.length).offset = (Utf8.encode cs).length := by
  rw [within, offset_advance]
  exact Nat.zero_add _

theorem offset_within_lt {chars : List Char} {i j : Nat} (inside : i < chars.length)
    (order : i < j) : (within chars i).offset < (within chars j).offset := by
  have next : within chars (i + 1) = (within chars i).past chars[i] (chars.drop (i + 1)).head? := by
    have step := advance_drop first chars i 1
    rw [List.drop_eq_getElem_cons inside, advance, advance_zero] at step
    exact step.symm
  have later := offset_within_le chars order
  rw [next, offset_past] at later
  exact Nat.lt_of_lt_of_le (Nat.lt_add_of_pos_right (Utf8.width_pos _)) later

theorem offset_within_inj {chars : List Char} {i j : Nat} (first : i ≤ chars.length)
    (second : j ≤ chars.length) (same : (within chars i).offset = (within chars j).offset) :
    i = j := by
  rcases Nat.lt_trichotomy i j with less | equal | more
  · have apart := offset_within_lt (Nat.lt_of_lt_of_le less second) less
    omega
  · exact equal
  · have apart := offset_within_lt (Nat.lt_of_lt_of_le more first) more
    omega

theorem line_pos_advance (p : Position) (cs : List Char) (n : Nat) (start : 0 < p.line) :
    0 < (p.advance cs n).line := by
  induction cs generalizing p n with
  | nil => simpa using start
  | cons c cs ih =>
      cases n with
      | zero => simpa using start
      | succ n =>
          apply ih
          unfold past
          split <;> simp [start]

def shift (bytes lines : Nat) (p : Position) : Position :=
  ⟨p.offset + bytes, p.line + lines, p.column⟩

theorem past_shift (bytes lines : Nat) (p : Position) (c : Char) (next : Option Char) :
    (p.shift bytes lines).past c next = (p.past c next).shift bytes lines := by
  unfold past shift
  split <;> simp only [mk.injEq, and_true] <;> omega

theorem advance_shift (bytes lines : Nat) (p : Position) (cs : List Char) (n : Nat) :
    (p.shift bytes lines).advance cs n = (p.advance cs n).shift bytes lines := by
  induction cs generalizing p n with
  | nil => rfl
  | cons c cs ih =>
      cases n with
      | zero => rfl
      | succ n => rw [advance, advance, past_shift, ih]

theorem advance_append (p : Position) {cs : List Char} (ds : List Char) {n : Nat}
    (line : cs.getLast? = some '\n') (inside : n ≤ cs.length) :
    p.advance (cs ++ ds) n = p.advance cs n := by
  induction cs generalizing p n with
  | nil => cases line
  | cons c cs ih =>
      cases n with
      | zero => simp
      | succ n =>
          cases cs with
          | nil =>
              obtain rfl : c = '\n' := by simpa using line
              obtain rfl : n = 0 := by simpa using inside
              simp
          | cons d cs =>
              rw [List.getLast?_cons_cons] at line
              exact ih _ line (Nat.le_of_succ_le_succ inside)

theorem column_advance_line (p : Position) {cs : List Char} (line : cs.getLast? = some '\n') :
    (p.advance cs cs.length).column = 1 := by
  induction cs generalizing p with
  | nil => cases line
  | cons c cs ih =>
      cases cs with
      | nil =>
          obtain rfl : c = '\n' := by simpa using line
          simp [isLineBreak]
      | cons d cs =>
          rw [List.getLast?_cons_cons] at line
          exact ih _ line

theorem eq_shift_first {p : Position} (column : p.column = 1) (line : 0 < p.line) :
    p = first.shift p.offset (p.line - 1) := by
  obtain ⟨offset, row, col⟩ := p
  simp only [first, shift, mk.injEq] at *
  omega

/-- Behind full lines a text has its own places, moved down by those lines. -/
theorem within_append (cs ds : List Char) (n : Nat) (line : cs.getLast? = some '\n') :
    within (cs ++ ds) (cs.length + n)
      = (within ds n).shift (Utf8.encode cs).length ((within cs cs.length).line - 1) := by
  have turn : within (cs ++ ds) cs.length
      = first.shift (Utf8.encode cs).length ((within cs cs.length).line - 1) := by
    have offset := offset_within cs ds
    have same : within (cs ++ ds) cs.length = within cs cs.length :=
      advance_append first ds line (Nat.le_refl _)
    rw [same] at offset ⊢
    rw [← offset]
    exact eq_shift_first (column_advance_line first line)
      (line_pos_advance first cs cs.length (by decide))
  calc
    within (cs ++ ds) (cs.length + n)
      = (within (cs ++ ds) cs.length).advance ((cs ++ ds).drop cs.length) n :=
        (advance_drop first (cs ++ ds) cs.length n).symm
    _ = (first.shift (Utf8.encode cs).length ((within cs cs.length).line - 1)).advance ds n := by
        rw [turn, List.drop_left]
    _ = _ := advance_shift _ _ first ds n

end Position

def Span.place (span : Span) : Position := ⟨span.start, span.line, span.column⟩

namespace Source

theorem read_eq_ok_iff {input : Bytes} {source : Source} :
    read input = .ok source ↔
      stripMark input = (source.bom, source.text) ∧ source.text = Utf8.encode source.chars := by
  unfold read
  obtain ⟨bom, text, chars⟩ := source
  generalize stripMark input = stripped
  obtain ⟨mark, body⟩ := stripped
  constructor
  · intro decoded
    cases scalars : Utf8.decode body with
    | error e =>
        simp only [scalars] at decoded
        cases decoded
    | ok cs =>
        simp only [scalars] at decoded
        cases decoded
        exact ⟨rfl, Utf8.decode_eq_ok_iff.1 scalars⟩
  · rintro ⟨strip, encoded⟩
    cases strip
    simp only [Utf8.decode_eq_ok_iff.2 encoded]
    rfl

theorem read_encode {cs : List Char} (unmarked : ¬ byteOrderMark <+: Utf8.encode cs) :
    read (Utf8.encode cs) = .ok ⟨false, Utf8.encode cs, cs⟩ := by
  rw [read_eq_ok_iff, stripMark, if_neg (by rwa [List.isPrefixOf_iff_prefix])]
  exact ⟨rfl, rfl⟩

theorem at?_eq (source : Source) (i : Nat) :
    source.at? i = source.chars[i]?.map (fun c => ⟨c, Position.within source.chars i⟩) :=
  Position.getElem?_scalars .first source.chars i

theorem offset_within_length {source : Source} (encoded : source.text = Utf8.encode source.chars) :
    (Position.within source.chars source.chars.length).offset = source.text.length := by
  have offset := Position.offset_within source.chars []
  rwa [List.append_nil, ← encoded] at offset

theorem slice_eq {source : Source} (encoded : source.text = Utf8.encode source.chars)
    {front middle back : List Char} (split : source.chars = front ++ middle ++ back) :
    source.slice (Utf8.encode front).length (Utf8.encode (front ++ middle)).length
      = Utf8.encode middle := by
  rw [slice, encoded, split]
  simp

def HasScalar (s : Source) (p : Position) (c : Char) : Prop := ∃ i, s.at? i = some ⟨c, p⟩

theorem hasScalar_within {source : Source} {front back : List Char} {c : Char}
    (whole : source.chars = front ++ c :: back) :
    source.HasScalar (Position.within source.chars front.length) c := by
  refine ⟨front.length, ?_⟩
  rw [at?_eq, whole]
  simp

end Source

end AsnLexis
