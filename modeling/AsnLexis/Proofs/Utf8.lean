import AsnLexis.Text.Utf8
import Mathlib

/-! UTF-8 reads back what it writes: a text is well formed exactly when it is the encoding of its
scalars. -/

namespace AsnLexis.Utf8

theorem toNat_ofNat {n : Nat} (small : n < 256) : (UInt8.ofNat n).toNat = n := by
  rw [UInt8.toNat_ofNat', Nat.mod_eq_of_lt small]

theorem length_encodeChar (c : Char) : (encodeChar c).length = width c := by
  unfold encodeChar encodeCode width
  split_ifs <;> rfl

theorem width_pos (c : Char) : 0 < width c := by
  unfold width
  split_ifs <;> decide

theorem pair?_eq (a b : UInt8) :
    pair? a b =
      if 0xC2 ≤ a.toNat ∧ a.toNat ≤ 0xDF ∧ 0x80 ≤ b.toNat ∧ b.toNat ≤ 0xBF then
        some (Char.ofNat ((a.toNat - 0xC0) * 64 + (b.toNat - 0x80)))
      else none := by
  simp [pair?, isTail, UInt8.le_iff_toNat_le, and_assoc]

theorem triple?_eq (a b c : UInt8) :
    triple? a b c =
      if 0xE0 ≤ a.toNat ∧ a.toNat ≤ 0xEF ∧ (0x80 ≤ b.toNat ∧ b.toNat ≤ 0xBF)
          ∧ (0x80 ≤ c.toNat ∧ c.toNat ≤ 0xBF) ∧ (a.toNat ≠ 0xE0 ∨ 0xA0 ≤ b.toNat)
          ∧ (a.toNat ≠ 0xED ∨ b.toNat ≤ 0x9F) then
        some (Char.ofNat ((a.toNat - 0xE0) * 4096 + (b.toNat - 0x80) * 64 + (c.toNat - 0x80)))
      else none := by
  simp [triple?, isTail, UInt8.le_iff_toNat_le, and_assoc, ← UInt8.toNat_inj]

theorem quadruple?_eq (a b c d : UInt8) :
    quadruple? a b c d =
      if 0xF0 ≤ a.toNat ∧ a.toNat ≤ 0xF4 ∧ (0x80 ≤ b.toNat ∧ b.toNat ≤ 0xBF)
          ∧ (0x80 ≤ c.toNat ∧ c.toNat ≤ 0xBF) ∧ (0x80 ≤ d.toNat ∧ d.toNat ≤ 0xBF)
          ∧ (a.toNat ≠ 0xF0 ∨ 0x90 ≤ b.toNat) ∧ (a.toNat ≠ 0xF4 ∨ b.toNat ≤ 0x8F) then
        some (Char.ofNat ((a.toNat - 0xF0) * 262144 + (b.toNat - 0x80) * 4096
          + (c.toNat - 0x80) * 64 + (d.toNat - 0x80)))
      else none := by
  simp [quadruple?, isTail, UInt8.le_iff_toNat_le, and_assoc, ← UInt8.toNat_inj]

theorem encodeChar_ofNat {n : Nat} (valid : n.isValidChar) :
    encodeChar (Char.ofNat n) = encodeCode n := by
  rw [encodeChar, Char.toNat_ofNat, if_pos valid]

theorem ofNat_toNat_eq {b : UInt8} {n : Nat} (same : n = b.toNat) : UInt8.ofNat n = b := by
  rw [same, UInt8.ofNat_toNat]

theorem encodeChar_of_pair? {a b : UInt8} {c : Char} (found : pair? a b = some c) :
    encodeChar c = [a, b] := by
  rw [pair?_eq] at found
  split_ifs at found with bounds
  rw [← Option.some.inj found]
  set n := (a.toNat - 0xC0) * 64 + (b.toNat - 0x80) with code
  rw [encodeChar_ofNat (Or.inl (by omega)), encodeCode, if_neg (by omega), if_pos (by omega)]
  rw [ofNat_toNat_eq (b := a) (by omega), ofNat_toNat_eq (b := b) (by omega)]

theorem encodeChar_of_triple? {a b c : UInt8} {x : Char} (found : triple? a b c = some x) :
    encodeChar x = [a, b, c] := by
  rw [triple?_eq] at found
  split_ifs at found with bounds
  rw [← Option.some.inj found]
  set n := (a.toNat - 0xE0) * 4096 + (b.toNat - 0x80) * 64 + (c.toNat - 0x80) with code
  have valid : n.isValidChar := by unfold Nat.isValidChar; omega
  rw [encodeChar_ofNat valid, encodeCode, if_neg (by omega), if_neg (by omega), if_pos (by omega)]
  rw [ofNat_toNat_eq (b := a) (by omega), ofNat_toNat_eq (b := b) (by omega),
    ofNat_toNat_eq (b := c) (by omega)]

theorem encodeChar_of_quadruple? {a b c d : UInt8} {x : Char}
    (found : quadruple? a b c d = some x) : encodeChar x = [a, b, c, d] := by
  rw [quadruple?_eq] at found
  split_ifs at found with bounds
  rw [← Option.some.inj found]
  set n := (a.toNat - 0xF0) * 262144 + (b.toNat - 0x80) * 4096 + (c.toNat - 0x80) * 64
    + (d.toNat - 0x80) with code
  have valid : n.isValidChar := by unfold Nat.isValidChar; omega
  rw [encodeChar_ofNat valid, encodeCode, if_neg (by omega), if_neg (by omega), if_neg (by omega)]
  rw [ofNat_toNat_eq (b := a) (by omega), ofNat_toNat_eq (b := b) (by omega),
    ofNat_toNat_eq (b := c) (by omega), ofNat_toNat_eq (b := d) (by omega)]

theorem eq_encodeChar_of_front? {bs rest : Bytes} {c : Char} (found : front? bs = some (c, rest)) :
    bs = encodeChar c ++ rest := by
  -- One case for each number of bytes.
  unfold front? at found
  split at found
  case h_1 => cases found
  case h_2 a r =>
    split at found
    case isTrue ascii =>
      cases found
      have small : a.toNat < 0x80 := by simpa [UInt8.lt_iff_toNat_lt] using ascii
      rw [encodeChar_ofNat (Or.inl (by omega)), encodeCode, if_pos small, UInt8.ofNat_toNat]
      rfl
    case isFalse =>
      repeat' split at found
      all_goals simp only [reduceCtorEq, Option.some.injEq, Prod.mk.injEq] at found
      · obtain ⟨rfl, rfl⟩ := found
        rw [encodeChar_of_pair? (by assumption)]
        rfl
      · obtain ⟨rfl, rfl⟩ := found
        rw [encodeChar_of_triple? (by assumption)]
        rfl
      · obtain ⟨rfl, rfl⟩ := found
        rw [encodeChar_of_quadruple? (by assumption)]
        rfl

theorem isValidChar_toNat (c : Char) : c.toNat < 0xD800 ∨ (0xDFFF < c.toNat ∧ c.toNat < 0x110000) :=
  c.valid

theorem not_ascii {a : Nat} (low : 0x80 ≤ a) (high : a < 256) : ¬ UInt8.ofNat a < 0x80 := by
  rw [UInt8.lt_iff_toNat_lt, toNat_ofNat high]
  exact Nat.not_lt.2 low

theorem pair?_encoded {n : Nat} (low : 0x80 ≤ n) (high : n < 0x800) :
    pair? (UInt8.ofNat (0xC0 + n / 64)) (UInt8.ofNat (0x80 + n % 64)) = some (Char.ofNat n) := by
  rw [pair?_eq, toNat_ofNat (by omega), toNat_ofNat (by omega), if_pos (by omega)]
  exact congrArg (fun m => some (Char.ofNat m)) (by omega)

theorem pair?_long {a : Nat} (low : 0xE0 ≤ a) (high : a < 256) (b : UInt8) :
    pair? (UInt8.ofNat a) b = none := by
  rw [pair?_eq, toNat_ofNat high, if_neg (by omega)]

theorem triple?_encoded {n : Nat} (low : 0x800 ≤ n) (high : n < 0x10000)
    (valid : n < 0xD800 ∨ 0xDFFF < n) :
    triple? (UInt8.ofNat (0xE0 + n / 4096)) (UInt8.ofNat (0x80 + n / 64 % 64))
      (UInt8.ofNat (0x80 + n % 64)) = some (Char.ofNat n) := by
  rw [triple?_eq, toNat_ofNat (by omega), toNat_ofNat (by omega), toNat_ofNat (by omega),
    if_pos (by omega)]
  exact congrArg (fun m => some (Char.ofNat m)) (by omega)

theorem triple?_long {a : Nat} (low : 0xF0 ≤ a) (high : a < 256) (b c : UInt8) :
    triple? (UInt8.ofNat a) b c = none := by
  rw [triple?_eq, toNat_ofNat high, if_neg (by omega)]

theorem quadruple?_encoded {n : Nat} (low : 0x10000 ≤ n) (high : n < 0x110000) :
    quadruple? (UInt8.ofNat (0xF0 + n / 262144)) (UInt8.ofNat (0x80 + n / 4096 % 64))
      (UInt8.ofNat (0x80 + n / 64 % 64)) (UInt8.ofNat (0x80 + n % 64)) = some (Char.ofNat n) := by
  rw [quadruple?_eq, toNat_ofNat (by omega), toNat_ofNat (by omega), toNat_ofNat (by omega),
    toNat_ofNat (by omega), if_pos (by omega)]
  exact congrArg (fun m => some (Char.ofNat m)) (by omega)

theorem front?_encodeChar_append (c : Char) (rest : Bytes) :
    front? (encodeChar c ++ rest) = some (c, rest) := by
  have valid := isValidChar_toNat c
  have same : Char.ofNat c.toNat = c := Char.ofNat_toNat c
  rw [encodeChar, encodeCode]
  generalize c.toNat = n at *
  split_ifs with one two three
  · have first : (UInt8.ofNat n).toNat = n := toNat_ofNat (by omega)
    have ascii : UInt8.ofNat n < 0x80 := UInt8.lt_iff_toNat_lt.2 (by rw [first]; exact one)
    simp only [List.cons_append, List.nil_append, front?, if_pos ascii, first, same]
  · have found := pair?_encoded (by omega) two
    have large := not_ascii (a := 0xC0 + n / 64) (by omega) (by omega)
    simp only [List.cons_append, List.nil_append, front?, if_neg large, found, same]
  · have found := triple?_encoded (n := n) (by omega) (by omega) (by omega)
    have large := not_ascii (a := 0xE0 + n / 4096) (by omega) (by omega)
    have long := pair?_long (a := 0xE0 + n / 4096) (by omega) (by omega)
    simp only [List.cons_append, List.nil_append, front?, if_neg large, long, found, same]
  · have found := quadruple?_encoded (n := n) (by omega) (by omega)
    have large := not_ascii (a := 0xF0 + n / 262144) (by omega) (by omega)
    have long := pair?_long (a := 0xF0 + n / 262144) (by omega) (by omega)
    have longer := triple?_long (a := 0xF0 + n / 262144) (by omega) (by omega)
    simp only [List.cons_append, List.nil_append, front?, if_neg large, long, longer, found, same]

@[simp] theorem encode_nil : encode [] = [] := rfl

@[simp] theorem encode_cons (c : Char) (cs : List Char) :
    encode (c :: cs) = encodeChar c ++ encode cs := rfl

@[simp] theorem encode_append (cs ds : List Char) : encode (cs ++ ds) = encode cs ++ encode ds :=
  List.flatMap_append

theorem pieces_encode_append (cs : List Char) (bs : Bytes) :
    pieces (encode cs ++ bs) = cs.map Piece.scalar ++ pieces bs := by
  induction cs with
  | nil => rfl
  | cons c cs ih =>
      rw [encode_cons, List.append_assoc, pieces]
      split
      next x rest found =>
        rw [front?_encodeChar_append] at found
        cases found
        rw [ih, List.map_cons, List.cons_append]
      next none =>
        rw [front?_encodeChar_append] at none
        cases none

theorem pieces_nil : pieces [] = [] := by
  rw [pieces]
  rfl

theorem pieces_encode (cs : List Char) : pieces (encode cs) = cs.map Piece.scalar := by
  have pieces := pieces_encode_append cs []
  rwa [List.append_nil, pieces_nil, List.append_nil] at pieces

theorem decodeLossy_encode (cs : List Char) : decodeLossy (encode cs) = cs := by
  have shown : Piece.shown ∘ Piece.scalar = id := rfl
  rw [decodeLossy, pieces_encode, List.map_map, shown, List.map_id]

theorem encode_inj {cs ds : List Char} : encode cs = encode ds ↔ cs = ds :=
  (Function.LeftInverse.injective decodeLossy_encode).eq_iff

theorem flatMap_bytes_pieces (bs : Bytes) : (pieces bs).flatMap Piece.bytes = bs := by
  fun_induction pieces bs with
  | case1 bs c rest found ih =>
      rw [List.flatMap_cons, ih, Piece.bytes]
      exact (eq_encodeChar_of_front? found).symm
  | case2 => rfl
  | case3 b rest found ih => rw [List.flatMap_cons, ih, Piece.bytes, List.singleton_append]

theorem scalarsFrom_map_scalar (offset : Nat) (cs : List Char) :
    scalarsFrom offset (cs.map Piece.scalar) = .ok cs := by
  induction cs generalizing offset with
  | nil => rfl
  | cons c cs ih => rw [List.map_cons, scalarsFrom, ih, Except.map]

theorem eq_map_scalar_of_scalarsFrom {offset : Nat} {ps : List Piece} {cs : List Char}
    (clean : scalarsFrom offset ps = .ok cs) : ps = cs.map Piece.scalar := by
  induction ps generalizing offset cs with
  | nil =>
      cases clean
      rfl
  | cons piece ps ih =>
      cases piece with
      | stray b => cases clean
      | scalar c =>
          rw [scalarsFrom] at clean
          cases tail : scalarsFrom (offset + width c) ps with
          | error e =>
              rw [tail] at clean
              cases clean
          | ok ds =>
              rw [tail] at clean
              cases clean
              rw [List.map_cons, ← ih tail]

theorem exists_stray_of_scalarsFrom {offset : Nat} {ps : List Piece} {e : Malformed}
    (failed : scalarsFrom offset ps = .error e) :
    ∃ cs b rest, ps = cs.map Piece.scalar ++ .stray b :: rest
      ∧ e = ⟨offset + (encode cs).length, b⟩ := by
  induction ps generalizing offset with
  | nil => cases failed
  | cons piece ps ih =>
      cases piece with
      | stray b =>
          cases failed
          exact ⟨[], b, ps, rfl, rfl⟩
      | scalar c =>
          rw [scalarsFrom] at failed
          cases tail : scalarsFrom (offset + width c) ps with
          | ok ds =>
              rw [tail] at failed
              cases failed
          | error later =>
              rw [tail] at failed
              cases failed
              obtain ⟨cs, b, rest, rfl, rfl⟩ := ih tail
              refine ⟨c :: cs, b, rest, rfl, ?_⟩
              rw [encode_cons, List.length_append, length_encodeChar, Nat.add_assoc]

theorem decode_eq_ok_iff {bs : Bytes} {cs : List Char} : decode bs = .ok cs ↔ bs = encode cs := by
  constructor
  · intro decoded
    have clean : pieces bs = cs.map Piece.scalar := eq_map_scalar_of_scalarsFrom decoded
    rw [← flatMap_bytes_pieces bs, clean, List.flatMap_map]
    rfl
  · rintro rfl
    rw [decode, pieces_encode, scalarsFrom_map_scalar]

theorem encodeChar_ascii {c : Char} (low : c.toNat < 0x80) :
    encodeChar c = [UInt8.ofNat c.toNat] := by
  rw [encodeChar, encodeCode, if_pos low]

theorem high_of_mem_encodeChar {c : Char} (high : 0x80 ≤ c.toNat) {b : UInt8}
    (member : b ∈ encodeChar c) : 0x80 ≤ b.toNat := by
  have valid := isValidChar_toNat c
  have large {n : Nat} (low : 0x80 ≤ n) (small : n < 256) (same : b = UInt8.ofNat n) :
      0x80 ≤ b.toNat := by
    rw [same, toNat_ofNat small]
    exact low
  rw [encodeChar, encodeCode, if_neg (by omega)] at member
  split_ifs at member <;> simp only [List.mem_cons, List.not_mem_nil, or_false] at member
  · rcases member with same | same
    · exact large (by omega) (by omega) same
    · exact large (by omega) (by omega) same
  · rcases member with same | same | same
    · exact large (by omega) (by omega) same
    · exact large (by omega) (by omega) same
    · exact large (by omega) (by omega) same
  · rcases member with same | same | same | same
    · exact large (by omega) (by omega) same
    · exact large (by omega) (by omega) same
    · exact large (by omega) (by omega) same
    · exact large (by omega) (by omega) same

variable {a : Char} {cs : List Char}

theorem mem_encodeChar_ascii (low : a.toNat < 0x80) {c : Char} :
    UInt8.ofNat a.toNat ∈ encodeChar c ↔ c = a := by
  constructor
  · intro member
    by_cases ascii : c.toNat < 0x80
    · rw [encodeChar_ascii ascii, List.mem_singleton] at member
      have same := congrArg UInt8.toNat member
      rw [toNat_ofNat (by omega), toNat_ofNat (by omega)] at same
      exact (Char.toNat_inj.1 same).symm
    · have high := high_of_mem_encodeChar (Nat.not_lt.1 ascii) member
      rw [toNat_ofNat (by omega)] at high
      omega
  · rintro rfl
    rw [encodeChar_ascii low]
    exact List.mem_singleton_self _

theorem mem_encode_ascii (low : a.toNat < 0x80) : UInt8.ofNat a.toNat ∈ encode cs ↔ a ∈ cs := by
  rw [encode, List.mem_flatMap]
  simp only [mem_encodeChar_ascii low, exists_eq_right]

theorem encodeChar_ne_nil (c : Char) : encodeChar c ≠ [] :=
  List.ne_nil_of_length_pos (length_encodeChar c ▸ width_pos c)

theorem encode_eq_nil : encode cs = [] ↔ cs = [] := by
  cases cs with
  | nil => simp
  | cons c cs => simp [encodeChar_ne_nil]

theorem head?_encode_ascii (low : a.toNat < 0x80) (cs : List Char) :
    (encode cs).head? = some (UInt8.ofNat a.toNat) ↔ cs.head? = some a := by
  cases cs with
  | nil => simp
  | cons c cs =>
      rw [encode_cons, List.head?_append_of_ne_nil _ (encodeChar_ne_nil c), List.head?_cons,
        Option.some_inj]
      constructor
      · intro first
        exact (mem_encodeChar_ascii low).1 (List.mem_of_mem_head? first)
      · rintro rfl
        rw [encodeChar_ascii low, List.head?_cons]

theorem getLast?_encode_ascii (low : a.toNat < 0x80) (cs : List Char) :
    (encode cs).getLast? = some (UInt8.ofNat a.toNat) ↔ cs.getLast? = some a := by
  rcases List.eq_nil_or_concat cs with rfl | ⟨front, c, rfl⟩
  · simp
  · rw [List.concat_eq_append, encode_append, encode_cons, encode_nil, List.append_nil,
      List.getLast?_append_of_ne_nil _ (encodeChar_ne_nil c), List.getLast?_concat, Option.some_inj]
    constructor
    · intro last
      exact (mem_encodeChar_ascii low).1 (List.mem_of_getLast? last)
    · rintro rfl
      rw [encodeChar_ascii low, List.getLast?_singleton]

end AsnLexis.Utf8
