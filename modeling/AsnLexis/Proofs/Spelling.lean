import AsnLexis.Proofs.Lookahead
import AsnLexis.Proofs.Quoting
import AsnLexis.Proofs.Words
import Mathlib

/-! The spellings of the kinds. Every kind of token has a grammar of its own, and a lexeme has the
kind whose grammar it follows. A lexeme that follows none is unknown. -/

namespace AsnLexis

namespace Lexeme

def IsDigits (cs : List Char) : Prop := cs ≠ [] ∧ ∀ c ∈ cs, isDigit c

def IsWhole (cs : List Char) : Prop := cs = ['0'] ∨ (IsDigits cs ∧ cs.head? ≠ some '0')

inductive IsFraction : List Char → Prop
  | point {ds : List Char} (digits : IsDigits ds) : IsFraction ('.' :: ds)

inductive IsExponent : List Char → Prop
  | plain {e : Char} {ds : List Char} (letter : e = 'e' ∨ e = 'E') (digits : IsDigits ds) :
      IsExponent (e :: ds)
  | minus {e : Char} {ds : List Char} (letter : e = 'e' ∨ e = 'E') (digits : IsDigits ds) :
      IsExponent (e :: '-' :: ds)

inductive Spells (p : Profile) : Kind → List Char → Prop
  | number {whole : List Char} (form : IsWhole whole) : Spells p .number whole
  | realNumber {whole part power : List Char} (form : IsWhole whole)
      (point : part = [] ∨ IsFraction part) (scale : power = [] ∨ IsExponent power)
      (real : part ++ power ≠ []) : Spells p .realNumber (whole ++ (part ++ power))
  | bString {marks : List Char} (binary : ∀ c ∈ marks, isWhitespace c ∨ c = '0' ∨ c = '1') :
      Spells p .bString ('\'' :: (marks ++ ['\'', 'B']))
  | hString {marks : List Char} (hexadecimal : ∀ c ∈ marks, isWhitespace c ∨ isHexDigit c) :
      Spells p .hString ('\'' :: (marks ++ ['\'', 'H']))
  | literal (text : List Char) : Spells p .literal (Literal.quotation text)
  | mark {spelling : List Char} {kind : Kind} (listed : (spelling, kind) ∈ Kind.operators) :
      Spells p kind spelling
  | identifier {cs : List Char} {id : Identifier}
      (classified : p.classify (.ofText (Utf8.encode cs)) = .ok id) (free : ¬ isKeyword id.text) :
      Spells p .identifier cs
  | keyword {cs : List Char} {id : Identifier}
      (classified : p.classify (.ofText (Utf8.encode cs)) = .ok id)
      (reserved : isKeyword id.text) : Spells p .keyword cs

theorem kind_of_listed {spelling : List Char} {kind : Kind}
    (listed : (spelling, kind) ∈ Kind.operators) :
    spelling ≠ [] ∧ kind ≠ .unknown ∧ kind ≠ .endOfInput := by
  have table : ∀ mark ∈ Kind.operators,
      mark.1 ≠ [] ∧ mark.2 ≠ .unknown ∧ mark.2 ≠ .endOfInput := by decide
  exact table _ listed

theorem IsWhole.ne_nil {whole : List Char} (form : IsWhole whole) : whole ≠ [] := by
  rcases form with rfl | ⟨⟨some, _⟩, _⟩
  · exact List.cons_ne_nil _ _
  · exact some

variable {p : Profile}

theorem Spells.known {kind : Kind} {cs : List Char} (spelled : Spells p kind cs) :
    cs ≠ [] ∧ kind ≠ .unknown ∧ kind ≠ .endOfInput := by
  have accepted {cs : List Char} {id : Identifier}
      (classified : p.classify (.ofText (Utf8.encode cs)) = .ok id) : cs ≠ [] :=
    (Profile.check_eq_ok_iff.1 (Profile.classify_ofText.1 classified)).1
  cases spelled with
  | number form => exact ⟨form.ne_nil, by decide, by decide⟩
  | realNumber form =>
      exact ⟨List.append_ne_nil_of_left_ne_nil form.ne_nil _, by decide, by decide⟩
  | mark listed => exact kind_of_listed listed
  | identifier classified => exact ⟨accepted classified, by decide, by decide⟩
  | keyword classified => exact ⟨accepted classified, by decide, by decide⟩
  | _ => exact ⟨by simp [Literal.quotation], by decide, by decide⟩

theorem exists_digits (cs : List Char) :
    ∃ ds rest, cs = ds ++ rest ∧ (∀ c ∈ ds, isDigit c) ∧ digits cs = ds.length :=
  ⟨cs.takeWhile isDigit, cs.dropWhile isDigit, List.takeWhile_append_dropWhile.symm,
    fun _ member => List.mem_takeWhile_imp member, rfl⟩

theorem digits_append {ds rest : List Char} (all : ∀ c ∈ ds, isDigit c)
    (stop : ¬ startsWithDigit rest) : digits (ds ++ rest) = ds.length := by
  have none : digits rest = 0 := Nat.eq_zero_of_not_pos (digits_pos.not.2 stop)
  rw [digits, List.takeWhile_append_of_pos all, List.length_append]
  simpa [digits] using none

theorem isDigits_of_pos {ds : List Char} (all : ∀ c ∈ ds, isDigit c) (pos : 0 < ds.length) :
    IsDigits ds :=
  ⟨List.ne_nil_of_length_pos pos, all⟩

theorem IsDigits.starts {ds : List Char} (some : IsDigits ds) (rest : List Char) :
    startsWithDigit (ds ++ rest) := by
  obtain ⟨c, ds, rfl⟩ := List.exists_cons_of_ne_nil some.1
  exact some.2 c List.mem_cons_self

theorem exists_fraction (cs : List Char) :
    ∃ part rest, cs = part ++ rest ∧ (part = [] ∨ IsFraction part) ∧ fraction cs = part.length := by
  fun_cases fraction cs with
  | case1 rest digit =>
      obtain ⟨ds, rest, rfl, all, length⟩ := exists_digits rest
      have some := isDigits_of_pos all (length ▸ digits_pos.2 digit)
      exact ⟨'.' :: ds, rest, rfl, .inr (.point some), by rw [length, List.length_cons]⟩
  | case2 rest => exact ⟨[], '.' :: rest, rfl, .inl rfl, rfl⟩
  | case3 => exact ⟨[], cs, rfl, .inl rfl, rfl⟩

theorem exists_exponentValue {cs : List Char} (some : exponentValue cs ≠ 0) :
    ∃ ds rest, IsDigits ds ∧ ((cs = ds ++ rest ∧ exponentValue cs = ds.length) ∨
      (cs = '-' :: (ds ++ rest) ∧ exponentValue cs = ds.length + 1)) := by
  revert some
  fun_cases exponentValue cs with
  | case1 rest digit =>
      intro _
      obtain ⟨ds, rest, rfl, all, length⟩ := exists_digits rest
      have some := isDigits_of_pos all (length ▸ digits_pos.2 digit)
      exact ⟨ds, rest, some, .inr ⟨rfl, by rw [length]⟩⟩
  | case2 => exact absurd rfl
  | case3 =>
      intro some
      obtain ⟨ds, rest, rfl, all, length⟩ := exists_digits cs
      exact ⟨ds, rest, isDigits_of_pos all (length ▸ Nat.pos_of_ne_zero some), .inl ⟨rfl, length⟩⟩

theorem exists_exponent (cs : List Char) :
    ∃ power rest, cs = power ++ rest ∧ (power = [] ∨ IsExponent power) ∧
      exponent cs = power.length := by
  fun_cases exponent cs with
  | case1 c rest found =>
      simp only [Bool.and_eq_true, Bool.or_eq_true, beq_iff_eq, bne_iff_ne] at found
      obtain ⟨letter, some⟩ := found
      obtain ⟨ds, left, digits, ⟨rfl, length⟩ | ⟨rfl, length⟩⟩ := exists_exponentValue some
      · exact ⟨c :: ds, left, rfl, .inr (.plain letter digits), by rw [length, List.length_cons]⟩
      · exact ⟨c :: '-' :: ds, left, rfl, .inr (.minus letter digits), by
          rw [length, List.length_cons, List.length_cons]⟩
  | case2 c rest => exact ⟨[], c :: rest, rfl, .inl rfl, rfl⟩
  | case3 => exact ⟨[], [], rfl, .inl rfl, rfl⟩

theorem readNumber_parts {c : Char} {ds part power : List Char} (left : List Char)
    (whole : digits (ds ++ (part ++ (power ++ left))) = ds.length)
    (point : fraction (part ++ (power ++ left)) = part.length)
    (scale : exponent (power ++ left) = power.length) :
    readNumber c (ds ++ (part ++ (power ++ left))) = ⟨(ds ++ (part ++ power)).length,
      if c = '0' ∧ ds ≠ [] then .malformed .malformedNumber
      else .plain (if part ++ power = [] then .number else .realNumber)⟩ := by
  have further : (ds ++ (part ++ (power ++ left))).drop (ds.length + part.length)
      = power ++ left := by
    rw [← List.drop_drop, List.drop_left, List.drop_left]
  have none : part.length + power.length = 0 ↔ part ++ power = [] := by
    rw [← List.length_append, List.length_eq_zero_iff]
  have zero : (c == '0' && ds.length != 0) ↔ c = '0' ∧ ds ≠ [] := by simp
  simp only [readNumber, whole, List.drop_left, point, further, scale, List.length_append, none,
    zero, Nat.add_assoc]
  split_ifs <;> rfl

theorem spells_of_readNumber {c : Char} {tail : List Char} {kind : Kind} (digit : isDigit c)
    (front : readNumber c tail = ⟨tail.length, .plain kind⟩) : Spells p kind (c :: tail) := by
  obtain ⟨ds, rest, rfl, all, whole⟩ := exists_digits tail
  obtain ⟨part, rest, rfl, point, fractional⟩ := exists_fraction rest
  obtain ⟨power, left, rfl, scale, exponential⟩ := exists_exponent rest
  rw [readNumber_parts left whole fractional exponential, Front.mk.injEq] at front
  obtain ⟨length, reading⟩ := front
  obtain rfl : left = [] := by
    rw [← List.length_eq_zero_iff]
    simp only [List.length_append] at length
    omega
  split_ifs at reading with zero integer
  all_goals
    have form : IsWhole (c :: ds) := by
      by_cases first : c = '0'
      · have none : ds = [] := by simpa [first] using zero
        exact .inl (by rw [first, none])
      · have digits : IsDigits (c :: ds) :=
          ⟨List.cons_ne_nil c ds, List.forall_mem_cons.2 ⟨digit, all⟩⟩
        exact .inr ⟨digits, by simpa using first⟩
    cases reading
  · obtain ⟨rfl, rfl⟩ := List.append_eq_nil_iff.1 integer
    simpa using Spells.number form
  · simpa using Spells.realNumber form point scale integer

theorem IsDigits.length {ds : List Char} (some : IsDigits ds) :
    digits ds = ds.length ∧ startsWithDigit ds := by
  have stop : ¬ startsWithDigit [] := by decide
  have length := digits_append some.2 stop
  have starts := some.starts []
  rw [List.append_nil] at length starts
  exact ⟨length, starts⟩

theorem exponentValue_digits {ds : List Char} (some : IsDigits ds) (rest : List Char) :
    exponentValue (ds ++ rest) = digits (ds ++ rest) := by
  obtain ⟨d, ds, rfl⟩ := List.exists_cons_of_ne_nil some.1
  have minus : d ≠ '-' := by
    rintro rfl
    exact absurd (some.2 '-' List.mem_cons_self) (by decide)
  rw [List.cons_append, exponentValue_cons, if_neg minus]

theorem exponent_eq {power : List Char} (scale : power = [] ∨ IsExponent power) :
    exponent power = power.length := by
  have value {e : Char} {rest : List Char} (letter : e = 'e' ∨ e = 'E')
      (length : exponentValue rest = rest.length) (some : rest ≠ []) :
      exponent (e :: rest) = (e :: rest).length := by
    simp [exponent, letter, length, some]
  rcases scale with rfl | ⟨letter, digits⟩ | ⟨letter, digits⟩
  · rfl
  · have plain := exponentValue_digits digits []
    rw [List.append_nil, digits.length.1] at plain
    exact value letter plain digits.1
  · obtain ⟨length, starts⟩ := digits.length
    refine value letter ?_ (List.cons_ne_nil _ _)
    rw [exponentValue_cons, if_pos rfl, if_pos starts, length, List.length_cons]

theorem head?_exponent {power : List Char} (scale : power = [] ∨ IsExponent power) :
    ¬ startsWithDigit power ∧ power.head? ≠ some '.' := by
  rcases scale with rfl | ⟨rfl | rfl, _⟩ | ⟨rfl | rfl, _⟩ <;> simp [startsWithDigit, isDigit]

theorem fraction_append {part after : List Char} (point : part = [] ∨ IsFraction part)
    (stop : ¬ startsWithDigit after) (other : after.head? ≠ some '.') :
    fraction (part ++ after) = part.length ∧ ¬ startsWithDigit (part ++ after) := by
  rcases point with rfl | @⟨ds, digits⟩
  · refine ⟨?_, stop⟩
    cases after with
    | nil => rfl
    | cons e after =>
        have noPoint : e ≠ '.' := by simpa using other
        simp [fraction_cons, noPoint]
  · refine ⟨?_, by simp [startsWithDigit, isDigit]⟩
    rw [List.cons_append, fraction_cons, if_pos ⟨rfl, digits.starts after⟩,
      digits_append digits.2 stop, List.length_cons]

theorem fraction_eq {part power : List Char} (point : part = [] ∨ IsFraction part)
    (scale : power = [] ∨ IsExponent power) :
    fraction (part ++ power) = part.length ∧ ¬ startsWithDigit (part ++ power) :=
  fraction_append point (head?_exponent scale).1 (head?_exponent scale).2

theorem isDigit_of_isWhole {c : Char} {ds : List Char} (form : IsWhole (c :: ds)) :
    (∀ d ∈ c :: ds, isDigit d) ∧ ¬ (c = '0' ∧ ds ≠ []) := by
  rcases form with same | ⟨digits, positive⟩
  · cases same
    exact ⟨by simp [isDigit], by simp⟩
  · exact ⟨digits.2, fun zero => positive (congrArg some zero.1)⟩

theorem read_digit (p : Profile) {c : Char} (digit : isDigit c) (rest : List Char) :
    read p c rest = readNumber c rest := by
  have quote : c ≠ '"' := by
    rintro rfl
    cases digit
  have apostrophe : c ≠ '\'' := by
    rintro rfl
    cases digit
  simp [read, quote, apostrophe, digit]

theorem read_number (p : Profile) {c : Char} {ds part power : List Char} (form : IsWhole (c :: ds))
    (point : part = [] ∨ IsFraction part) (scale : power = [] ∨ IsExponent power) :
    (read p c (ds ++ (part ++ power))).reading
      = .plain (if part ++ power = [] then .number else .realNumber) := by
  obtain ⟨digits, zero⟩ := isDigit_of_isWhole form
  obtain ⟨digit, later⟩ := List.forall_mem_cons.1 digits
  obtain ⟨fractional, stop⟩ := fraction_eq point scale
  have front := readNumber_parts (c := c) []
    (by rw [List.append_nil]; exact digits_append later stop)
    (by rw [List.append_nil]; exact fractional) (by rw [List.append_nil]; exact exponent_eq scale)
  rw [List.append_nil, if_neg zero] at front
  rw [read_digit p digit, front]

theorem all_marks (q : Char → Bool) (marks : List Char) :
    (marks.filter (!isWhitespace ·)).all q ↔ ∀ c ∈ marks, isWhitespace c ∨ q c := by
  simp only [List.all_filter, List.all_eq_true, Bool.or_eq_true, Bool.not_not]

theorem radixKind_eq_bString {marks : List Char} {letter : Option Char} :
    radixKind marks letter = .bString ↔
      letter = some 'B' ∧ ∀ c ∈ marks, isWhitespace c ∨ c = '0' ∨ c = '1' := by
  have binary := all_marks (fun c => c == '0' || c == '1') marks
  simp only [Bool.or_eq_true, beq_iff_eq] at binary
  rw [← binary]
  unfold radixKind
  dsimp only
  split
  next => split_ifs <;> simp_all
  next => split_ifs <;> simp
  next noB _ => exact iff_of_false (by decide) (fun both => noB both.1)

theorem radixKind_eq_hString {marks : List Char} {letter : Option Char} :
    radixKind marks letter = .hString ↔
      letter = some 'H' ∧ ∀ c ∈ marks, isWhitespace c ∨ isHexDigit c := by
  rw [← all_marks]
  unfold radixKind
  dsimp only
  split
  next => split_ifs <;> simp
  next => split_ifs <;> simp_all
  next _ noH => exact iff_of_false (by decide) (fun both => noH both.1)

theorem read_apostrophe (p : Profile) (rest : List Char) : read p '\'' rest = readRadix rest := rfl

theorem spells_of_readRadix {tail : List Char} {kind : Kind}
    (front : readRadix tail = ⟨tail.length, .plain kind⟩) : Spells p kind ('\'' :: tail) := by
  have closed : '\'' ∈ tail := by
    by_contra unclosed
    rw [readRadix_open unclosed] at front
    cases front
  obtain ⟨marks, after, rfl, free⟩ := exists_contents closed
  rw [readRadix_eq free, radixFront, Front.mk.injEq] at front
  obtain ⟨length, reading⟩ := front
  split_ifs at reading with unknown
  cases reading
  have last {letter : Char} (first : after.head? = some letter) : after = [letter] := by
    obtain ⟨rest, rfl⟩ := List.head?_eq_some_iff.1 first
    simp only [List.length_append, List.length_cons] at length
    split_ifs at length
    · obtain rfl : rest = [] := List.eq_nil_of_length_eq_zero (by omega)
      rfl
    · omega
  have listed := radixKind_cases marks after.head?
  simp only [List.mem_cons, List.not_mem_nil, or_false] at listed
  rcases listed with kind | kind | kind
  · obtain ⟨letter, binary⟩ := radixKind_eq_bString.1 kind
    rw [kind, last letter]
    exact .bString binary
  · obtain ⟨letter, hexadecimal⟩ := radixKind_eq_hString.1 kind
    rw [kind, last letter]
    exact .hString hexadecimal
  · simp [kind] at unknown

theorem apostrophe_not_mem {marks : List Char} {letter : Option Char} {kind : Kind}
    (known : radixKind marks letter = kind) (some : kind ≠ .unknown) : '\'' ∉ marks := by
  intro member
  have listed := radixKind_cases marks letter
  simp only [known, List.mem_cons, List.not_mem_nil, or_false] at listed
  rcases listed with rfl | rfl | rfl
  · simpa [isWhitespace, isSpacing, isLineBreak] using (radixKind_eq_bString.1 known).2 _ member
  · simpa [isWhitespace, isSpacing, isLineBreak, isHexDigit, isDigit]
      using (radixKind_eq_hString.1 known).2 _ member
  · exact some rfl

theorem read_radix (p : Profile) {marks : List Char} {letter : Char} {kind : Kind}
    (known : radixKind marks (some letter) = kind) (some : kind ≠ .unknown) :
    (read p '\'' (marks ++ ['\'', letter])).reading = .plain kind := by
  have free := apostrophe_not_mem known some
  rw [read_apostrophe, readRadix_eq free, List.head?_cons, radixFront, known]
  simp [some]

theorem read_closed (p : Profile) {marks : List Char} (after : List Char) (free : '\'' ∉ marks) :
    ∃ reading, read p '\'' (marks ++ '\'' :: after)
        = ⟨(marks ++ '\'' :: after.take (if isRadix after.head? then 1 else 0)).length, reading⟩ ∧
      ∀ fault, reading ≠ .fatal fault := by
  have length : (after.take (if isRadix after.head? then 1 else 0)).length
      = if isRadix after.head? then 1 else 0 := by
    cases after with
    | nil => rfl
    | cons d after => split_ifs <;> rfl
  rw [read_apostrophe, readRadix_eq free, radixFront, List.length_append, List.length_cons, length]
  refine ⟨_, congrArg (Front.mk · _) (Nat.add_right_comm _ _ _), fun fault => ?_⟩
  split_ifs <;> simp

theorem kind_unique {spelling : List Char} {kind other : Kind}
    (listed : (spelling, kind) ∈ Kind.operators) (further : (spelling, other) ∈ Kind.operators) :
    other = kind := by
  have table : ∀ mark ∈ Kind.operators, ∀ entry ∈ Kind.operators,
      mark.1 = entry.1 → entry.2 = mark.2 := by decide
  exact table _ listed _ further rfl

theorem listed_of_operator? {c : Char} {tail spelling : List Char} {kind : Kind}
    (found : Kind.operator? (c :: tail) = some (spelling, kind))
    (whole : spelling.length - 1 = tail.length) : (c :: tail, kind) ∈ Kind.operators := by
  obtain ⟨listed, front⟩ := operator?_eq_some found
  have some := List.length_pos_of_ne_nil (kind_of_listed listed).1
  have length : spelling.length = (c :: tail).length := by
    rw [List.length_cons]
    omega
  rwa [front.eq_of_length length] at listed

theorem mark_scalars {c : Char} {tail : List Char} {kind : Kind}
    (listed : (c :: tail, kind) ∈ Kind.operators) :
    isPunctuation c ∧ isIdentifierStart c = false ∧ ∀ d ∈ c :: tail, d.toNat < 0x80 := by
  have table : Kind.operators.all fun mark =>
      mark.1.head?.all (fun c => isPunctuation c && !isIdentifierStart c) &&
        mark.1.all (·.toNat < 0x80) := by decide
  have entry := List.all_eq_true.1 table _ listed
  simpa [and_assoc] using entry

theorem reading_of_listed {c : Char} {tail : List Char} {kind : Kind}
    (listed : (c :: tail, kind) ∈ Kind.operators) {reading : Reading}
    (found : read p c tail = ⟨tail.length, reading⟩) : reading = .plain kind := by
  obtain ⟨spelling, other, operator, read⟩ := read_punctuation p (mark_scalars listed).1 tail
  rw [found, Front.mk.injEq] at read
  rw [read.2, kind_unique listed (listed_of_operator? operator read.1.symm)]

theorem isStart_of_check {c : Char} {cs : List Char} {id : Identifier}
    (checked : p.check (c :: cs) = .ok id) (low : c.toNat < 0x80)
    (first : (p.form (c :: cs)).head? = some c) : isIdentifierStart c := by
  obtain ⟨rest, normal⟩ := List.head?_eq_some_iff.1 first
  obtain ⟨_, sound, _⟩ := Profile.check_eq_ok_iff.1 checked
  rw [NormalForm.normalize, normal, List.map_cons, plainHyphen_of_ascii low] at sound
  exact Profile.identifierStart_of_isStart (Profile.flaw?_cons_eq_none.1 sound).1

/-- What begins a lexeme that is neither a word nor a mark begins no identifier, and it joins
nothing that could make it one. -/
theorem isLone_of_other {c : Char} (other : c = '"' ∨ c = '\'' ∨ isDigit c ∨ isForeignSymbol c) :
    Unicode.IsLone c ∧ isIdentifierStart c = false := by
  have low : c.toNat < 0x80 := by
    rcases other with rfl | rfl | digit | symbol
    · decide
    · decide
    · have bound : c.toNat ≤ '9'.toNat := of_decide_eq_true (Bool.and_eq_true_iff.1 digit).2
      exact Nat.lt_of_le_of_lt bound (by decide)
    · have table : ['#', '%', '+', '?', '\\', '`', '~'].all (·.toNat < 0x80) := by decide
      exact of_decide_eq_true (List.all_eq_true.1 table c (eq_of_isForeignSymbol symbol))
  have entry := of_ascii_table (fun c =>
    !(c == '"' || c == '\'' || isDigit c || isForeignSymbol c) ||
      ((Unicode.compositions.find? c.toNat).isNone &&
        (Unicode.compositions.find? (c.toNat + 0x10000)).isNone && !isIdentifierStart c)) low
    (by decide +kernel)
  simp only [Bool.or_eq_true, Bool.not_eq_true', Bool.or_eq_false_iff, beq_eq_false_iff_ne,
    Bool.and_eq_true, Option.isNone_iff_eq_none] at entry
  rcases entry with ⟨⟨⟨noQuote, noApostrophe⟩, noDigit⟩, noSymbol⟩ | ⟨⟨plain, image⟩, noStart⟩
  · simp [noQuote, noApostrophe, noDigit, noSymbol] at other
  · exact ⟨Unicode.isLone_of_table low plain image, noStart⟩

theorem not_check_of_other (form : p.form = Unicode.nfc) {c : Char}
    (other : c = '"' ∨ c = '\'' ∨ isDigit c ∨ isForeignSymbol c) {cs : List Char}
    {id : Identifier} : p.check (c :: cs) ≠ .ok id := by
  intro checked
  obtain ⟨lone, noStart⟩ := isLone_of_other other
  have start := isStart_of_check checked lone.low (form ▸ Unicode.head?_nfc lone cs)
  simp [noStart] at start

theorem not_check_of_listed (form : p.form = Unicode.nfc) {c : Char} {tail : List Char}
    {kind : Kind} (listed : (c :: tail, kind) ∈ Kind.operators) {id : Identifier} :
    p.check (c :: tail) ≠ .ok id := by
  intro checked
  obtain ⟨_, noStart, ascii⟩ := mark_scalars listed
  have same : p.form (c :: tail) = c :: tail := form ▸ Unicode.nfc_keepsAscii _ ascii
  have start := isStart_of_check checked (ascii c List.mem_cons_self) (by rw [same]; rfl)
  simp [noStart] at start

theorem reading_of_check (form : p.form = Unicode.nfc) {c : Char} {tail : List Char}
    {reading : Reading} {id : Identifier} (checked : p.check (c :: tail) = .ok id)
    (found : read p c tail = ⟨tail.length, reading⟩) (mild : ∀ fault, reading ≠ .fatal fault) :
    reading = .word id := by
  have reads := reads_read p c tail
  rw [found] at reads
  generalize length : tail.length = n at reads
  cases reads with
  | literal quote => exact absurd checked (not_check_of_other form (.inl quote))
  | radix apostrophe => exact absurd checked (not_check_of_other form (.inr (.inl apostrophe)))
  | badRadix apostrophe => exact absurd checked (not_check_of_other form (.inr (.inl apostrophe)))
  | number digit => exact absurd checked (not_check_of_other form (.inr (.inr (.inl digit))))
  | badNumber digit => exact absurd checked (not_check_of_other form (.inr (.inr (.inl digit))))
  | foreign symbol => exact absurd checked (not_check_of_other form (.inr (.inr (.inr symbol))))
  | mark operator =>
      exact absurd checked (not_check_of_listed form (listed_of_operator? operator length.symm))
  | word _ accepted =>
      rw [← length, List.take_length, checked] at accepted
      cases accepted
      rfl
  | badWord _ _ _ flawed =>
      rw [← length, List.take_length, checked] at flawed
      cases flawed
  | unterminated => exact absurd rfl (mild _)
  | unexpected => exact absurd rfl (mild _)

theorem spells_of_read {c : Char} {tail : List Char} {reading : Reading}
    (found : read p c tail = ⟨tail.length, reading⟩) (known : reading.kind ≠ .unknown) :
    Spells p reading.kind (c :: tail) := by
  have reads := reads_read p c tail
  rw [found] at reads
  generalize length : tail.length = n at reads
  -- One case for each reader; all that is left gives an unknown token.
  cases reads with
  | literal =>
      have alone : read p c (tail ++ []) = ⟨tail.length, .literal⟩ := by rwa [List.append_nil]
      obtain ⟨text, lexeme, _⟩ := quotation_of_read alone
      rw [lexeme]
      exact .literal text
  | radix apostrophe front =>
      subst apostrophe
      exact spells_of_readRadix (length ▸ front)
  | number digit front => exact spells_of_readNumber digit (length ▸ front)
  | mark operator => exact .mark (listed_of_operator? operator length.symm)
  | word _ accepted =>
      rw [← length, List.take_length] at accepted
      have classified := Profile.classify_ofText.2 accepted
      rw [Reading.kind]
      split
      next reserved => exact .keyword classified reserved
      next free => exact .identifier classified free
  | _ => exact absurd rfl known

theorem kind_of_spells (form : p.form = Unicode.nfc) {c : Char} {tail : List Char}
    {reading : Reading} {kind : Kind} (spelled : Spells p kind (c :: tail))
    (found : read p c tail = ⟨tail.length, reading⟩) (mild : ∀ fault, reading ≠ .fatal fault) :
    reading.kind = kind := by
  have same : (read p c tail).reading = reading := congrArg Front.reading found
  generalize lexeme : c :: tail = cs at spelled
  -- One case for each production; each spells a text that its reader takes whole.
  cases spelled with
  | number whole =>
      subst lexeme
      have number : (read p c (tail ++ ([] ++ []))).reading = .plain .number :=
        read_number p whole (.inl rfl) (.inl rfl)
      rw [List.append_nil, List.append_nil] at number
      rw [← same, number]
      rfl
  | @realNumber whole part power form point scale real =>
      obtain ⟨d, ds, rfl⟩ := List.exists_cons_of_ne_nil form.ne_nil
      rw [List.cons_append] at lexeme
      obtain ⟨rfl, rfl⟩ := List.cons.inj lexeme
      rw [← same, read_number p form point scale, if_neg real]
      rfl
  | bString binary =>
      cases lexeme
      have known := radixKind_eq_bString.2 ⟨rfl, binary⟩
      rw [← same, read_radix p known (by decide)]
      rfl
  | hString hexadecimal =>
      cases lexeme
      have known := radixKind_eq_hString.2 ⟨rfl, hexadecimal⟩
      rw [← same, read_radix p known (by decide)]
      rfl
  | literal text =>
      cases lexeme
      have single : [].head? ≠ some '"' := by simp
      have whole := read_quotation p text single
      rw [List.append_nil] at whole
      rw [← same, whole]
      rfl
  | mark listed =>
      subst lexeme
      rw [reading_of_listed listed found]
      rfl
  | identifier classified free =>
      subst lexeme
      rw [reading_of_check form (Profile.classify_ofText.1 classified) found mild]
      exact if_neg free
  | keyword classified reserved =>
      subst lexeme
      rw [reading_of_check form (Profile.classify_ofText.1 classified) found mild]
      exact if_pos reserved

theorem kind_iff_spells (form : p.form = Unicode.nfc) {c : Char} {tail : List Char}
    {reading : Reading} (found : read p c tail = ⟨tail.length, reading⟩)
    (mild : ∀ fault, reading ≠ .fatal fault) {kind : Kind} (known : kind ≠ .unknown) :
    reading.kind = kind ↔ Spells p kind (c :: tail) := by
  constructor
  · rintro rfl
    exact spells_of_read found known
  · exact fun spelled => kind_of_spells form spelled found mild

end Lexeme

/-- The kind of a token is the one that its lexeme spells; unknown is the kind of what spells none,
and only the end of the input has no lexeme. -/
structure Token.Spelled (p : Profile) (lexeme : List Char) (t : Token) : Prop where
  last : t.kind = .endOfInput ↔ lexeme = []
  kind : ∀ kind, kind ≠ .unknown → kind ≠ .endOfInput →
    (t.kind = kind ↔ Lexeme.Spells p kind lexeme)
  unknown : t.kind = .unknown ↔ lexeme ≠ [] ∧ ∀ kind, ¬ Lexeme.Spells p kind lexeme

namespace Lexer

variable {source : Source} {l : Lexer}

theorem Stands.spelled {p : Profile} {chars left : List Char} {x : Placed}
    (stands : Stands p chars x left) (form : p.form = Unicode.nfc) :
    (x.token chars).Spelled p x.segment.lexeme := by
  have alone : Lexeme.read p x.segment.head x.segment.tail
      = ⟨x.segment.tail.length, x.segment.reading⟩ := by
    rw [← stands.read]
    refine Lexeme.read_alone ?_ ?_
    · rw [stands.read]
    · rw [stands.read]
      exact stands.mild
  have decided {kind : Kind} (known : kind ≠ .unknown) :
      (x.token chars).kind = kind ↔ Lexeme.Spells p kind x.segment.lexeme := by
    rw [Placed.kind_token]
    exact Lexeme.kind_iff_spells form alone stands.mild known
  have inner := Placed.kind_ne_endOfInput chars stands.read
  have some : x.segment.lexeme ≠ [] := List.cons_ne_nil _ _
  refine ⟨iff_of_false inner some, fun kind known _ => decided known, ?_⟩
  constructor
  · intro unknown
    refine ⟨some, fun kind spelled => ?_⟩
    have known := spelled.known.2.1
    exact known (((decided known).2 spelled).symm.trans unknown)
  · rintro ⟨_, none⟩
    by_contra known
    exact none _ ((decided known).1 rfl)

theorem Standing.spelled (standing : l.Standing source.chars)
    (encoded : source.text = Utf8.encode source.chars) (form : l.profile.form = Unicode.nfc)
    {t : Token} (token : l.scan.1 = .token t) :
    ∃ lexeme, source.sliceSpan t.span = Utf8.encode lexeme ∧ t.Spelled l.profile lexeme := by
  obtain ⟨last, empty⟩ | ⟨x, left, stands, rfl⟩ := standing.token_cases token
  · refine ⟨[], by simp [Source.sliceSpan, Source.slice, empty], by simp [last], ?_, ?_⟩
    · intro kind _ inner
      exact iff_of_false (fun same => inner (same.symm.trans last))
        fun spelled => spelled.known.1 rfl
    · simp [last]
  · refine ⟨x.segment.lexeme, ?_, stands.spelled form⟩
    rw [Placed.span_token]
    exact Placed.sliceSpan_of_drop encoded stands.lexeme

theorem Standing.scan_apostrophe (standing : l.Standing source.chars)
    (encoded : source.text = Utf8.encode source.chars) (going : l.final = none) {k : Nat}
    (trivia : Trivia.gap l.rest = .closed k) {marks after : List Char} (free : '\'' ∉ marks)
    (front : l.rest.drop k = '\'' :: (marks ++ '\'' :: after)) :
    ∃ t, l.scan.1 = .token t ∧ source.sliceSpan t.span = Utf8.encode ('\'' :: (marks ++ '\'' ::
      after.take (if Lexeme.isRadix after.head? then 1 else 0))) := by
  obtain ⟨reading, read, mild⟩ := Lexeme.read_closed l.profile after free
  generalize (if Lexeme.isRadix after.head? then 1 else 0) = n at read ⊢
  have split : marks ++ '\'' :: after = (marks ++ '\'' :: after.take n) ++ after.drop n := by
    rw [List.append_assoc, List.cons_append, List.take_append_drop]
  rw [split] at front read
  obtain ⟨fault, _, fatal, _⟩ | ⟨x, lexeme, _, stands, token⟩ :=
    standing.scan_front going trivia front read
  · exact absurd fatal (mild fault)
  · refine ⟨_, token, ?_⟩
    rw [Placed.span_token, Placed.sliceSpan_of_drop encoded stands.lexeme, Placed.text, lexeme]

theorem Standing.scan_open_apostrophe (standing : l.Standing source.chars)
    (going : l.final = none) {k : Nat} (trivia : Trivia.gap l.rest = .closed k) {cs : List Char}
    (unclosed : '\'' ∉ cs) (front : l.rest.drop k = '\'' :: cs) :
    ∃ e, l.scan.1 = .fatal e ∧ e.reason = .fault .unterminatedString := by
  have read : Lexeme.read l.profile '\'' (cs ++ []) = ⟨cs.length, .fatal .unterminatedString⟩ := by
    rw [List.append_nil, Lexeme.read_apostrophe, Lexeme.readRadix_open unclosed]
  obtain ⟨fault, e, fatal, failed, reason⟩ | ⟨x, _, same, stands, _⟩ :=
    standing.scan_front going trivia (by rwa [List.append_nil]) read
  · cases fatal
    exact ⟨e, failed, reason⟩
  · exact absurd same (stands.mild _)

end Lexer

/-- In every run, each token has the kind that its lexeme spells, and is unknown if the lexeme
spells none. With an apostrophe in front, trivia aside, a scan takes everything up to the next
apostrophe and a B or an H directly behind it; if there is no other apostrophe, it fails. -/
theorem token_kinds_spelled (file : Bytes) (strict : Bool) {input : Bytes} {source : Source}
    (decoded : Source.read input = .ok source) :
    let settings : Settings := ⟨file, .ofStrict strict⟩
    let l := Lexer.start settings source
    (∀ n t, l.returned n = .token t → ∃ lexeme,
      source.sliceSpan t.span = Utf8.encode lexeme ∧ t.Spelled settings.profile lexeme) ∧
    ∀ n k cs, (l.afterScans n).final = none → Trivia.gap (l.afterScans n).rest = .closed k →
      (l.afterScans n).rest.drop k = '\'' :: cs →
      (∀ marks after, '\'' ∉ marks → cs = marks ++ '\'' :: after → ∃ t, l.returned n = .token t ∧
        source.sliceSpan t.span = Utf8.encode ('\'' :: (marks ++ '\'' ::
          after.take (if Lexeme.isRadix after.head? then 1 else 0)))) ∧
      ('\'' ∉ cs → ∃ e, l.returned n = .fatal e ∧ e.reason = .fault .unterminatedString) := by
  intro settings l
  have encoded := (Source.read_eq_ok_iff.1 decoded).2
  have standing := (Lexer.standing_start settings source).scans
  have profile (n : Nat) : (l.afterScans n).profile = settings.profile :=
    (Lexer.profile_afterScans l n).trans (Lexer.start_fields settings source).1
  have form : settings.profile.form = Unicode.nfc := by cases strict <;> rfl
  constructor
  · intro n t token
    have spelled := (standing n).spelled encoded (by rw [profile, form]) token
    rwa [profile] at spelled
  · intro n k cs going trivia front
    constructor
    · rintro marks after free rfl
      exact (standing n).scan_apostrophe encoded going trivia free front
    · exact fun unclosed => (standing n).scan_open_apostrophe going trivia unclosed front

theorem token_kinds_spelled_binary :
    let cs := ['\'', '0', '\n', '1', '\'', 'B', 'H']
    let source : Source := ⟨false, Utf8.encode cs, cs⟩
    let l := Lexer.start ⟨[], .ofStrict true⟩ source
    let ds := ['\'', 'é']
    let further : Source := ⟨false, Utf8.encode ds, ds⟩
    Source.read (Utf8.encode cs) = .ok source ∧ Source.read (Utf8.encode ds) = .ok further ∧
      (∃ t lexeme, l.returned 0 = .token t ∧ lexeme = ['\'', '0', '\n', '1', '\'', 'B'] ∧
        source.sliceSpan t.span = Utf8.encode lexeme ∧ t.Spelled (.ofStrict true) lexeme) ∧
      ∃ e, (Lexer.start ⟨[], .ofStrict true⟩ further).returned 0 = .fatal e ∧
        e.reason = .fault .unterminatedString := by
  intro cs source l ds further
  have decoded : Source.read (Utf8.encode cs) = .ok source := Source.read_encode (by decide)
  have decoded' : Source.read (Utf8.encode ds) = .ok further := Source.read_encode (by decide)
  obtain ⟨spelled, closed⟩ := token_kinds_spelled [] true decoded
  obtain ⟨_, unclosed⟩ := token_kinds_spelled [] true decoded'
  have scanned := closed 0 0 cs.tail rfl (Trivia.gap_of_none rfl) rfl
  obtain ⟨t, token, slice⟩ := scanned.1 ['0', '\n', '1'] ['B', 'H'] (by decide) rfl
  obtain ⟨lexeme, same, kind⟩ := spelled 0 t token
  have text : lexeme = ['\'', '0', '\n', '1', '\'', 'B'] :=
    Utf8.encode_inj.1 (same.symm.trans slice)
  have failed := (unclosed 0 0 ds.tail rfl (Trivia.gap_of_none rfl) rfl).2 (by decide)
  exact ⟨decoded, decoded', ⟨t, lexeme, token, text, same, kind⟩, failed⟩

end AsnLexis
