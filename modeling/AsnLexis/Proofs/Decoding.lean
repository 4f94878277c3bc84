import AsnLexis.Proofs.Position
import Mathlib

/-! Decoding of source units. The well-formed texts are given here by the byte ranges of their
encoded scalars, apart from the decoder, and the bytes of a scalar by the encoder of the library. -/

namespace AsnLexis

namespace Utf8

/-- The byte sequences that encode one scalar, as the ranges their bytes come from. Longer forms of
a scalar, surrogates and values above U+10FFFF have none. -/
def forms : List (List (UInt8 × UInt8)) := [
  [(0x00, 0x7F)],
  [(0xC2, 0xDF), (0x80, 0xBF)],
  [(0xE0, 0xE0), (0xA0, 0xBF), (0x80, 0xBF)],
  [(0xE1, 0xEC), (0x80, 0xBF), (0x80, 0xBF)],
  [(0xED, 0xED), (0x80, 0x9F), (0x80, 0xBF)],
  [(0xEE, 0xEF), (0x80, 0xBF), (0x80, 0xBF)],
  [(0xF0, 0xF0), (0x90, 0xBF), (0x80, 0xBF), (0x80, 0xBF)],
  [(0xF1, 0xF3), (0x80, 0xBF), (0x80, 0xBF), (0x80, 0xBF)],
  [(0xF4, 0xF4), (0x80, 0x8F), (0x80, 0xBF), (0x80, 0xBF)]]

def IsForm (bs : Bytes) : Prop :=
  ∃ form ∈ forms, List.Forall₂ (fun b range => range.1 ≤ b ∧ b ≤ range.2) bs form

inductive WellFormed : Bytes → Prop where
  | nil : WellFormed []
  | cons {form rest : Bytes} : IsForm form → WellFormed rest → WellFormed (form ++ rest)

theorem isForm_encodeChar (c : Char) : IsForm (encodeChar c) := by
  have valid := isValidChar_toNat c
  rw [encodeChar, encodeCode]
  generalize c.toNat = n at *
  split_ifs with one two three
  · simp [IsForm, forms, UInt8.le_iff_toNat_le]
    omega
  · simp [IsForm, forms, UInt8.le_iff_toNat_le]
    omega
  · simp [IsForm, forms, UInt8.le_iff_toNat_le]
    omega
  · simp [IsForm, forms, UInt8.le_iff_toNat_le]
    omega

theorem exists_scalar_of_isForm {bs : Bytes} (form : IsForm bs) : ∃ x, bs = encodeChar x := by
  have one {a : UInt8} (low : a.toNat ≤ 0x7F) : ∃ x, [a] = encodeChar x := by
    refine ⟨Char.ofNat a.toNat, ?_⟩
    rw [encodeChar_ofNat (Or.inl (by omega)), encodeCode, if_pos (by omega), UInt8.ofNat_toNat]
  have two {a b : UInt8} {x : Char} (found : pair? a b = some x) : ∃ x, [a, b] = encodeChar x :=
    ⟨x, (encodeChar_of_pair? found).symm⟩
  have three {a b c : UInt8} {x : Char} (found : triple? a b c = some x) :
      ∃ x, [a, b, c] = encodeChar x := ⟨x, (encodeChar_of_triple? found).symm⟩
  have four {a b c d : UInt8} {x : Char} (found : quadruple? a b c d = some x) :
      ∃ x, [a, b, c, d] = encodeChar x := ⟨x, (encodeChar_of_quadruple? found).symm⟩
  simp only [IsForm, forms, List.mem_cons, List.not_mem_nil, or_false, exists_eq_or_imp,
    exists_eq_left, List.forall₂_cons_right_iff, List.forall₂_nil_right_iff, UInt8.le_iff_toNat_le,
    UInt8.reduceToNat] at form
  rcases form with ⟨a, _, first, rfl, rfl⟩ | ⟨a, _, first, ⟨b, _, second, rfl, rfl⟩, rfl⟩
    | ⟨a, _, first, ⟨b, _, second, ⟨c, _, third, rfl, rfl⟩, rfl⟩, rfl⟩
    | ⟨a, _, first, ⟨b, _, second, ⟨c, _, third, rfl, rfl⟩, rfl⟩, rfl⟩
    | ⟨a, _, first, ⟨b, _, second, ⟨c, _, third, rfl, rfl⟩, rfl⟩, rfl⟩
    | ⟨a, _, first, ⟨b, _, second, ⟨c, _, third, rfl, rfl⟩, rfl⟩, rfl⟩
    | ⟨a, _, first, ⟨b, _, second, ⟨c, _, third, ⟨d, _, fourth, rfl, rfl⟩, rfl⟩, rfl⟩, rfl⟩
    | ⟨a, _, first, ⟨b, _, second, ⟨c, _, third, ⟨d, _, fourth, rfl, rfl⟩, rfl⟩, rfl⟩, rfl⟩
    | ⟨a, _, first, ⟨b, _, second, ⟨c, _, third, ⟨d, _, fourth, rfl, rfl⟩, rfl⟩, rfl⟩, rfl⟩
  · exact one first.2
  · exact two ((pair?_eq a b).trans (if_pos (by omega)))
  · exact three ((triple?_eq a b c).trans (if_pos (by omega)))
  · exact three ((triple?_eq a b c).trans (if_pos (by omega)))
  · exact three ((triple?_eq a b c).trans (if_pos (by omega)))
  · exact three ((triple?_eq a b c).trans (if_pos (by omega)))
  · exact four ((quadruple?_eq a b c d).trans (if_pos (by omega)))
  · exact four ((quadruple?_eq a b c d).trans (if_pos (by omega)))
  · exact four ((quadruple?_eq a b c d).trans (if_pos (by omega)))

theorem wellFormed_iff {bs : Bytes} : WellFormed bs ↔ ∃ cs, bs = encode cs := by
  constructor
  · intro form
    induction form with
    | nil => exact ⟨[], rfl⟩
    | cons form _ ih =>
        obtain ⟨c, rfl⟩ := exists_scalar_of_isForm form
        obtain ⟨cs, rfl⟩ := ih
        exact ⟨c :: cs, rfl⟩
  · rintro ⟨cs, rfl⟩
    induction cs with
    | nil => exact .nil
    | cons c cs ih => exact .cons (isForm_encodeChar c) ih

theorem encodeChar_eq (c : Char) : encodeChar c = String.utf8EncodeChar c := by
  have valid := isValidChar_toNat c
  rw [encodeChar, encodeCode, String.utf8EncodeChar]
  simp only [Char.toNat] at *
  generalize c.val.toNat = n at *
  split_ifs with one two three <;> try omega
  · rfl
  · simp only [List.cons.injEq, and_true]
    exact ⟨congrArg UInt8.ofNat (by omega), congrArg UInt8.ofNat (by omega)⟩
  · simp only [List.cons.injEq, and_true]
    exact ⟨congrArg UInt8.ofNat (by omega), congrArg UInt8.ofNat (by omega),
      congrArg UInt8.ofNat (by omega)⟩
  · simp only [List.cons.injEq, and_true]
    exact ⟨congrArg UInt8.ofNat (by omega), congrArg UInt8.ofNat (by omega),
      congrArg UInt8.ofNat (by omega), congrArg UInt8.ofNat (by omega)⟩

/-- The error tells where `text` stops being well formed. -/
structure Malformed.Marks (e : Malformed) (text : Bytes) : Prop where
  malformed : ¬ WellFormed text
  front : WellFormed (text.take e.offset)
  longest : ∀ front, front <+: text → WellFormed front → front.length ≤ e.offset
  byte : text[e.offset]? = some e.byte

theorem prefix_of_stray {cs ds : List Char} {b : UInt8} {rest more : List Piece}
    (same : cs.map Piece.scalar ++ .stray b :: rest = ds.map Piece.scalar ++ more) : ds <+: cs := by
  induction ds generalizing cs with
  | nil => exact List.nil_prefix
  | cons d ds ih =>
      cases cs with
      | nil => cases same
      | cons c cs =>
          simp only [List.map_cons, List.cons_append, List.cons.injEq, Piece.scalar.injEq] at same
          obtain ⟨rfl, tail⟩ := same
          exact List.prefix_cons_inj c |>.2 (ih tail)

theorem marks_of_decode {text : Bytes} {e : Malformed} (failed : decode text = .error e) :
    e.Marks text := by
  obtain ⟨cs, b, rest, found, rfl⟩ := exists_stray_of_scalarsFrom failed
  rw [Nat.zero_add]
  have whole : text = encode cs ++ b :: rest.flatMap Piece.bytes := by
    rw [← flatMap_bytes_pieces text, found, List.flatMap_append, List.flatMap_map]
    rfl
  have longest : ∀ front, front <+: text → WellFormed front →
      front.length ≤ (encode cs).length := by
    rintro front ⟨back, split⟩ formed
    obtain ⟨ds, rfl⟩ := wellFormed_iff.1 formed
    rw [← split, pieces_encode_append] at found
    obtain ⟨es, rfl⟩ := prefix_of_stray found.symm
    rw [encode_append, List.length_append]
    exact Nat.le_add_right _ _
  refine ⟨?_, ?_, longest, ?_⟩
  · intro formed
    have short := longest text (List.prefix_refl text) formed
    rw [whole, List.length_append, List.length_cons] at short
    omega
  · rw [whole, List.take_left]
    exact wellFormed_iff.2 ⟨cs, rfl⟩
  · rw [whole, List.getElem?_append_right (Nat.le_refl _), Nat.sub_self]
    rfl

end Utf8

def Scalar.bytes (scalars : List Scalar) : Bytes :=
  scalars.flatMap fun scalar => String.utf8EncodeChar scalar.char

theorem Scalar.bytes_eq (scalars : List Scalar) :
    Scalar.bytes scalars = Utf8.encode (scalars.map (·.char)) := by
  rw [Scalar.bytes, Utf8.encode, List.flatMap_map]
  exact List.flatMap_congr fun scalar _ => (Utf8.encodeChar_eq scalar.char).symm

theorem Position.map_char_scalars (p : Position) (cs : List Char) :
    (p.scalars cs).map (·.char) = cs := by
  induction cs generalizing p with
  | nil => rfl
  | cons c cs ih => rw [Position.scalars, List.map_cons, ih]

namespace Source

/-- A text, and whether a byte order mark was left out in front of it. -/
inductive Strips : Bytes → Bool → Bytes → Prop where
  | marked (text : Bytes) : Strips (byteOrderMark ++ text) true text
  | plain {text : Bytes} : ¬ byteOrderMark <+: text → Strips text false text

theorem strips_stripMark (input : Bytes) :
    Strips input (stripMark input).1 (stripMark input).2 := by
  unfold stripMark
  split_ifs with marked
  · obtain ⟨text, rfl⟩ := List.isPrefixOf_iff_prefix.1 marked
    rw [List.drop_left]
    exact .marked text
  · exact .plain fun mark => marked (List.isPrefixOf_iff_prefix.2 mark)

def place (source : Source) (i : Nat) : Position :=
  ((source.at? i).map (·.place)).getD source.stop

theorem place_eq {source : Source} {i : Nat} (inside : i ≤ source.chars.length) :
    source.place i = Position.within source.chars i := by
  rw [place, at?_eq]
  rcases Nat.lt_or_eq_of_le inside with before | rfl
  · rw [List.getElem?_eq_getElem before]
    rfl
  · rw [List.getElem?_eq_none (Nat.le_refl _)]
    rfl

structure Decodes (source : Source) (bom : Bool) (text : Bytes) : Prop where
  mark : source.bom = bom
  whole : source.text = text
  encoded : Scalar.bytes source.scalars = text
  offset : ∀ i ≤ source.scalars.length,
    (source.place i).offset = (Scalar.bytes (source.scalars.take i)).length
  slice : ∀ i j, i ≤ j → j ≤ source.scalars.length →
    source.slice (source.place i).offset (source.place j).offset
      = Scalar.bytes ((source.scalars.drop i).take (j - i))

theorem map_char_scalars (source : Source) : source.scalars.map (·.char) = source.chars :=
  Position.map_char_scalars _ _

theorem length_scalars (source : Source) : source.scalars.length = source.chars.length := by
  rw [← map_char_scalars, List.length_map]

theorem offset_place {source : Source} {i : Nat} (inside : i ≤ source.scalars.length) :
    (source.place i).offset = (Scalar.bytes (source.scalars.take i)).length := by
  rw [length_scalars] at inside
  have before := Position.offset_within (source.chars.take i) (source.chars.drop i)
  rw [List.take_append_drop, List.length_take_of_le inside, ← place_eq inside] at before
  rw [before, Scalar.bytes_eq, List.map_take, map_char_scalars]

theorem slice_place {source : Source} (encoded : source.text = Utf8.encode source.chars) {i j : Nat}
    (order : i ≤ j) (inside : j ≤ source.scalars.length) :
    source.slice (source.place i).offset (source.place j).offset
      = Scalar.bytes ((source.scalars.drop i).take (j - i)) := by
  rw [offset_place (Nat.le_trans order inside), offset_place inside]
  simp only [Scalar.bytes_eq, List.map_take, List.map_drop, map_char_scalars]
  obtain ⟨n, rfl⟩ := Nat.exists_eq_add_of_le order
  have split : source.chars = source.chars.take i ++ (source.chars.drop i).take n
      ++ source.chars.drop (i + n) := by
    rw [← List.take_add, List.take_append_drop]
  rw [Nat.add_sub_cancel_left, List.take_add, slice_eq encoded split]

theorem decodes_of_read {input : Bytes} {source : Source} (found : read input = .ok source) :
    source.Decodes (stripMark input).1 (stripMark input).2 := by
  obtain ⟨strip, encoded⟩ := read_eq_ok_iff.1 found
  rw [strip]
  refine ⟨rfl, rfl, ?_, fun _ => offset_place, fun _ _ => slice_place encoded⟩
  rw [Scalar.bytes_eq, map_char_scalars, encoded]

theorem exists_read_iff {input : Bytes} :
    (∃ source, read input = .ok source) ↔ Utf8.WellFormed (stripMark input).2 := by
  rw [Utf8.wellFormed_iff]
  constructor
  · rintro ⟨source, found⟩
    obtain ⟨strip, encoded⟩ := read_eq_ok_iff.1 found
    exact ⟨source.chars, by rw [strip, encoded]⟩
  · rintro ⟨cs, encoded⟩
    exact ⟨⟨_, _, cs⟩, read_eq_ok_iff.2 ⟨rfl, encoded⟩⟩

theorem marks_of_read {input : Bytes} {e : Utf8.Malformed} (failed : read input = .error e) :
    e.Marks (stripMark input).2 := by
  unfold read at failed
  generalize stripMark input = stripped at *
  obtain ⟨bom, text⟩ := stripped
  cases decoded : Utf8.decode text with
  | ok cs =>
      simp only [decoded] at failed
      cases failed
  | error e' =>
      simp only [decoded] at failed
      cases failed
      exact Utf8.marks_of_decode decoded

end Source

/-- Let `text` be the input without one byte order mark in front. It is decoded exactly if it is
well formed, and then scalar for scalar: the bytes of the scalars, those of U+FFFD and of a later
U+FEFF among them, make up `text`, and the places of the scalars cut it where their bytes meet. If
it is malformed, the error stands behind its longest well-formed prefix. -/
theorem sources_decode_exactly (input : Bytes) :
    ∃ bom text, Source.Strips input bom text
      ∧ ((∃ source, Source.read input = .ok source) ↔ Utf8.WellFormed text)
      ∧ (∀ source, Source.read input = .ok source → source.Decodes bom text)
      ∧ ∀ e, Source.read input = .error e → e.Marks text :=
  ⟨_, _, Source.strips_stripMark input, Source.exists_read_iff, fun _ => Source.decodes_of_read,
    fun _ => Source.marks_of_read⟩

example : Source.read [0xEF, 0xBB, 0xBF, 0xEF, 0xBB, 0xBF, 0xEF, 0xBF, 0xBD]
    = .ok ⟨true, [0xEF, 0xBB, 0xBF, 0xEF, 0xBF, 0xBD], ['\uFEFF', '\uFFFD']⟩ := by cbv

example : Source.read [0xEF, 0xBB, 0xBF, 0x41, 0xF0, 0x9F, 0x98, 0x41] = .error ⟨1, 0xF0⟩ := by cbv

end AsnLexis
