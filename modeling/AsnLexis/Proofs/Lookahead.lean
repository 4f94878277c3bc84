import AsnLexis.Proofs.Lexeme
import AsnLexis.Proofs.Trivia
import Mathlib

/-! How far a lexeme looks ahead. What stands behind a lexeme can only make it longer, and
whitespace never does: a lexeme is the same on its own, in front of whitespace, and in front of
whatever followed it. -/

namespace AsnLexis

namespace Lexeme

variable {s : List Char}

theorem takeWhile_append_stop {α : Type} {q : α → Bool} {s : List α}
    (never : ∀ c ∈ s.head?, ¬ q c) (cs : List α) :
    (cs ++ s).takeWhile q = cs.takeWhile q := by
  induction cs with
  | nil =>
      cases s with
      | nil => rfl
      | cons c s =>
          have refused := never c rfl
          simp [refused]
  | cons c cs ih => simp only [List.cons_append, List.takeWhile_cons, ih]

theorem takeWhile_of_append {q : Char → Bool} {cs after : List Char}
    (inside : ((cs ++ after).takeWhile q).length ≤ cs.length) :
    cs.takeWhile q = (cs ++ after).takeWhile q := by
  induction cs with
  | nil =>
      have none := List.eq_nil_of_length_eq_zero (Nat.le_zero.1 inside)
      exact none.symm
  | cons c cs ih =>
      simp only [List.cons_append, List.takeWhile_cons] at inside ⊢
      by_cases admitted : q c
      · rw [if_pos admitted] at inside
        rw [ih (Nat.le_of_succ_le_succ inside)]
      · rw [if_neg admitted, if_neg admitted]

theorem word_stop (stop : Stops s) (cs : List Char) : word (cs ++ s) = word cs := by
  induction cs with
  | nil =>
      cases s with
      | nil => rfl
      | cons c s =>
          have white := stop c rfl
          simp [word, isBoundary, white]
  | cons c cs ih =>
      have next : (cs ++ s).head? = some '-' ↔ cs.head? = some '-' := by
        cases cs with
        | nil => simpa using stop.head_ne (by decide)
        | cons d cs => rfl
      simp only [List.cons_append, word, ih, Bool.and_eq_true, beq_iff_eq, next]

theorem word_alone {cs after : List Char} (whole : word (cs ++ after) = cs.length) :
    word cs = cs.length := by
  induction cs with
  | nil => rfl
  | cons c cs ih =>
      rw [List.cons_append, word] at whole
      split_ifs at whole with ends hyphens
      have single : ¬ (c == '-' && cs.head? == some '-') := by
        intro both
        apply hyphens
        cases cs with
        | nil => simp at both
        | cons d cs => exact both
      rw [word, if_neg ends, if_neg single, ih (Nat.succ.inj whole)]
      rfl

theorem digits_stop (stop : Stops s) (cs : List Char) : digits (cs ++ s) = digits cs := by
  rw [digits, takeWhile_append_stop (stop.head_of_class (by decide)), digits]

theorem startsWithDigit_stop (stop : Stops s) (cs : List Char) :
    startsWithDigit (cs ++ s) = startsWithDigit cs := by
  cases cs with
  | nil =>
      cases s with
      | nil => rfl
      | cons c s =>
          have refused := stop.head_of_class (q := isDigit) (by decide) c rfl
          simpa [startsWithDigit] using refused
  | cons c cs => rfl

theorem digits_alone {cs after : List Char} (inside : digits (cs ++ after) ≤ cs.length) :
    digits cs = digits (cs ++ after) := by
  rw [digits, takeWhile_of_append inside, digits]

theorem digits_pos {cs : List Char} : 0 < digits cs ↔ startsWithDigit cs := by
  cases cs with
  | nil => simp [digits, startsWithDigit]
  | cons c cs => by_cases digit : isDigit c <;> simp [digits, startsWithDigit, digit]

theorem fraction_cons (c : Char) (cs : List Char) :
    fraction (c :: cs) = if c = '.' ∧ startsWithDigit cs then digits cs + 1 else 0 := by
  by_cases point : c = '.'
  · subst point
    simp [fraction]
  · simp [fraction, point]

theorem exponentValue_cons (c : Char) (cs : List Char) :
    exponentValue (c :: cs) =
      if c = '-' then (if startsWithDigit cs then digits cs + 1 else 0) else digits (c :: cs) := by
  by_cases minus : c = '-'
  · subst minus
    rfl
  · simp [exponentValue, minus]

theorem fraction_stop (stop : Stops s) (cs : List Char) : fraction (cs ++ s) = fraction cs := by
  cases cs with
  | nil =>
      cases s with
      | nil => rfl
      | cons c s =>
          have point : c ≠ '.' := by simpa using stop.head_ne (c := '.') (by decide)
          simp [fraction, point]
  | cons c cs =>
      rw [List.cons_append, fraction_cons, fraction_cons, startsWithDigit_stop stop,
        digits_stop stop]

theorem exponentValue_stop (stop : Stops s) (cs : List Char) :
    exponentValue (cs ++ s) = exponentValue cs := by
  cases cs with
  | nil =>
      cases s with
      | nil => rfl
      | cons c s =>
          have minus : c ≠ '-' := by simpa using stop.head_ne (c := '-') (by decide)
          rw [List.nil_append, exponentValue_cons, if_neg minus]
          exact digits_stop stop []
  | cons c cs =>
      have whole := digits_stop stop (c :: cs)
      rw [List.cons_append] at whole
      rw [List.cons_append, exponentValue_cons, exponentValue_cons, startsWithDigit_stop stop,
        digits_stop stop, whole]

theorem exponent_stop (stop : Stops s) (cs : List Char) : exponent (cs ++ s) = exponent cs := by
  cases cs with
  | nil =>
      cases s with
      | nil => rfl
      | cons c s =>
          have small : c ≠ 'e' := by simpa using stop.head_ne (c := 'e') (by decide)
          have large : c ≠ 'E' := by simpa using stop.head_ne (c := 'E') (by decide)
          simp [exponent, small, large]
  | cons c cs => rw [List.cons_append, exponent, exponent, exponentValue_stop stop]

theorem startsWithDigit_append {cs after : List Char} (digit : startsWithDigit cs) :
    startsWithDigit (cs ++ after) := by
  cases cs with
  | nil => cases digit
  | cons c cs => exact digit

theorem startsWithDigit_alone {cs after : List Char} (inside : digits (cs ++ after) ≤ cs.length) :
    startsWithDigit (cs ++ after) = startsWithDigit cs := by
  have same := digits_alone inside
  rw [Bool.eq_iff_iff, ← digits_pos, ← digits_pos, same]

theorem signed_alone {cs after : List Char}
    (inside : (if startsWithDigit (cs ++ after) then digits (cs ++ after) + 1 else 0)
      ≤ cs.length + 1) :
    (if startsWithDigit cs then digits cs + 1 else 0)
      = if startsWithDigit (cs ++ after) then digits (cs ++ after) + 1 else 0 := by
  by_cases digit : startsWithDigit (cs ++ after)
  · rw [if_pos digit] at inside
    have short := Nat.le_of_succ_le_succ inside
    rw [startsWithDigit_alone short, digits_alone short]
  · have none : ¬ startsWithDigit cs := fun found => digit (startsWithDigit_append found)
    rw [if_neg digit, if_neg none]

theorem fraction_alone {cs after : List Char} (inside : fraction (cs ++ after) ≤ cs.length) :
    fraction cs = fraction (cs ++ after) := by
  cases cs with
  | nil => exact (Nat.le_zero.1 inside).symm
  | cons c cs =>
      rw [List.cons_append, fraction_cons] at inside
      rw [List.cons_append, fraction_cons, fraction_cons]
      by_cases point : c = '.'
      · simp only [point, true_and] at inside ⊢
        exact signed_alone inside
      · simp [point]

theorem exponentValue_alone {cs after : List Char}
    (inside : exponentValue (cs ++ after) ≤ cs.length) :
    exponentValue cs = exponentValue (cs ++ after) := by
  cases cs with
  | nil => exact (Nat.le_zero.1 inside).symm
  | cons c cs =>
      rw [List.cons_append, exponentValue_cons] at inside
      rw [List.cons_append, exponentValue_cons, exponentValue_cons]
      by_cases minus : c = '-'
      · simp only [minus, if_true] at inside ⊢
        exact signed_alone inside
      · rw [if_neg minus] at inside
        rw [if_neg minus, if_neg minus]
        exact digits_alone inside

theorem exponent_alone {cs after : List Char} (inside : exponent (cs ++ after) ≤ cs.length) :
    exponent cs = exponent (cs ++ after) := by
  cases cs with
  | nil => exact (Nat.le_zero.1 inside).symm
  | cons c cs =>
      rw [List.cons_append, exponent] at inside
      rw [List.cons_append, exponent, exponent]
      by_cases letter : c == 'e' || c == 'E'
      · have short : exponentValue (cs ++ after) ≤ cs.length := by
          by_cases none : exponentValue (cs ++ after) = 0
          · rw [none]
            exact Nat.zero_le _
          · rw [if_pos (by simp [letter, none])] at inside
            exact Nat.le_of_succ_le_succ inside
        rw [exponentValue_alone short]
      · simp [letter]

theorem readNumber_stop (stop : Stops s) (c : Char) (cs : List Char) :
    readNumber c (cs ++ s) = readNumber c cs := by
  have whole := digits_le cs
  have part := fraction_le (cs.drop (digits cs))
  rw [List.length_drop] at part
  have both : digits cs + fraction (cs.drop (digits cs)) ≤ cs.length := by omega
  simp only [readNumber, digits_stop stop, List.drop_append_of_le_length whole,
    fraction_stop stop, List.drop_append_of_le_length both, exponent_stop stop]

theorem readNumber_alone {c : Char} {cs after : List Char}
    (inside : (readNumber c (cs ++ after)).more ≤ cs.length) :
    readNumber c cs = readNumber c (cs ++ after) := by
  simp only [readNumber] at inside
  have whole : digits (cs ++ after) ≤ cs.length := by omega
  rw [List.drop_append_of_le_length whole] at inside
  have part : fraction (cs.drop (digits (cs ++ after)) ++ after)
      ≤ (cs.drop (digits (cs ++ after))).length := by
    rw [List.length_drop]
    omega
  have both : digits (cs ++ after) + fraction (cs.drop (digits (cs ++ after)) ++ after)
      ≤ cs.length := by omega
  rw [List.drop_append_of_le_length both] at inside
  have power : exponent (cs.drop (digits (cs ++ after)
        + fraction (cs.drop (digits (cs ++ after)) ++ after)) ++ after)
      ≤ (cs.drop (digits (cs ++ after)
        + fraction (cs.drop (digits (cs ++ after)) ++ after))).length := by
    rw [List.length_drop]
    omega
  simp only [readNumber, List.drop_append_of_le_length whole, List.drop_append_of_le_length both,
    digits_alone whole, fraction_alone part, exponent_alone power]

theorem quoted_cons {c : Char} {cs : List Char} (plain : c ≠ '"') :
    quoted (c :: cs) = (quoted cs).map (· + 1) := by
  rw [quoted]
  · simp [plain]
  · simp [plain]

theorem quoted_append {cs : List Char} {n : Nat} (closed : quoted cs = some n)
    (single : s.head? ≠ some '"') : quoted (cs ++ s) = some n := by
  fun_induction quoted cs generalizing n with
  | case1 => cases closed
  | case2 rest ih =>
      obtain ⟨m, inner, rfl⟩ := Option.map_eq_some_iff.1 closed
      simp [quoted, ih inner]
  | case3 rest alone =>
      cases closed
      cases rest with
      | nil =>
          cases s with
          | nil => rfl
          | cons d s =>
              have other : d ≠ '"' := by simpa using single
              simp [quoted, other]
      | cons d rest =>
          have other : d ≠ '"' := by
            rintro rfl
            exact alone rest rfl
          simp [quoted, other]
  | case4 c rest _ plain ih =>
      obtain ⟨m, inner, rfl⟩ := Option.map_eq_some_iff.1 closed
      rw [List.cons_append, quoted_cons plain, ih inner]
      rfl

theorem quoted_pos {cs : List Char} {n : Nat} (closed : quoted cs = some n) : 0 < n := by
  fun_induction quoted cs with
  | case1 => cases closed
  | case2 rest ih =>
      obtain ⟨m, _, rfl⟩ := Option.map_eq_some_iff.1 closed
      exact Nat.succ_pos _
  | case3 rest =>
      cases closed
      exact Nat.one_pos
  | case4 c rest =>
      obtain ⟨m, _, rfl⟩ := Option.map_eq_some_iff.1 closed
      exact Nat.succ_pos _

theorem quoted_alone {cs after : List Char} {n : Nat} (closed : quoted (cs ++ after) = some n)
    (inside : n ≤ cs.length) : quoted cs = some n := by
  fun_induction quoted cs generalizing n with
  | case1 => exact absurd (quoted_pos closed) (Nat.not_lt.2 inside)
  | case2 rest ih =>
      obtain ⟨m, inner, rfl⟩ := Option.map_eq_some_iff.1 closed
      rw [ih inner (Nat.le_of_add_le_add_right inside)]
      rfl
  | case3 rest alone =>
      cases rest with
      | nil =>
          cases after with
          | nil => exact closed
          | cons d after =>
              by_cases quote : d = '"'
              · subst quote
                obtain ⟨m, _, rfl⟩ := Option.map_eq_some_iff.1 closed
                simp at inside
              · simpa [quoted, quote] using closed
      | cons d rest =>
          have other : d ≠ '"' := by
            rintro rfl
            exact alone rest rfl
          simpa [quoted, other] using closed
  | case4 c rest _ plain ih =>
      rw [List.cons_append, quoted_cons plain] at closed
      obtain ⟨m, inner, rfl⟩ := Option.map_eq_some_iff.1 closed
      rw [ih inner (Nat.le_of_succ_le_succ inside)]
      rfl

theorem quoted_open {cs : List Char} (unclosed : quoted cs = none) :
    quoted (cs ++ s) = (quoted s).map (· + cs.length) := by
  fun_induction quoted cs with
  | case1 => simp
  | case2 rest ih =>
      have inner := ih (Option.map_eq_none_iff.1 unclosed)
      simp [quoted, inner, Function.comp_def, Nat.add_assoc]
  | case3 => cases unclosed
  | case4 c rest _ plain ih =>
      have inner := ih (Option.map_eq_none_iff.1 unclosed)
      rw [List.cons_append, quoted_cons plain, inner]
      simp [Function.comp_def, Nat.add_assoc]

theorem radixFront_plain {contents : List Char} {letter : Option Char} (plain : ¬ isRadix letter) :
    radixFront contents letter = radixFront contents none := by
  have kind : radixKind contents letter = .unknown := by
    unfold radixKind
    dsimp only
    split
    next => simp [isRadix] at plain
    next => simp [isRadix] at plain
    next => rfl
  simp only [radixFront, plain, kind]
  rfl

theorem not_isRadix_of_stop (stop : Stops s) : ¬ isRadix s.head? := by
  have letters : s.head? ≠ some 'B' ∧ s.head? ≠ some 'H' :=
    ⟨stop.head_ne (by decide), stop.head_ne (by decide)⟩
  simp [isRadix, letters]

theorem readRadix_stop (stop : Stops s) {cs : List Char} (closed : '\'' ∈ cs) :
    readRadix (cs ++ s) = readRadix cs := by
  obtain ⟨contents, after, rfl, free⟩ := exists_contents closed
  rw [List.append_assoc, List.cons_append, readRadix_eq free, readRadix_eq free]
  cases after with
  | nil => exact radixFront_plain (not_isRadix_of_stop stop)
  | cons d after => rfl

theorem readRadix_alone {cs after : List Char} (closed : '\'' ∈ cs ++ after)
    (inside : (readRadix (cs ++ after)).more ≤ cs.length) :
    readRadix cs = readRadix (cs ++ after) := by
  obtain ⟨contents, behind, split, free⟩ := exists_contents closed
  rw [split, readRadix_eq free] at inside ⊢
  simp only [radixFront] at inside
  have fits : (contents ++ ['\'']).length ≤ cs.length := by
    rw [List.length_append, List.length_singleton]
    omega
  have front : contents ++ ['\''] <+: cs :=
    List.prefix_of_prefix_length_le ⟨behind, by rw [split]; simp⟩ (List.prefix_append cs after) fits
  obtain ⟨rest, rfl⟩ := front
  have rejoin : behind = rest ++ after := by simpa using split.symm
  subst rejoin
  rw [List.append_assoc, List.singleton_append, readRadix_eq free]
  cases rest with
  | nil =>
      have plain : ¬ isRadix after.head? := by
        intro radix
        simp [radix] at inside
      exact (radixFront_plain plain).symm
  | cons d rest => rfl

theorem prefix_append_stop (stop : Stops s) {front : List Char}
    (visible : ∀ c ∈ front, ¬ isWhitespace c) (cs : List Char) :
    front <+: cs ++ s ↔ front <+: cs := by
  induction front generalizing cs with
  | nil => simp
  | cons c front ih =>
      cases cs with
      | nil =>
          cases s with
          | nil => rfl
          | cons d s =>
              have other : c ≠ d := by
                rintro rfl
                exact visible c List.mem_cons_self (stop c rfl)
              simp [List.cons_prefix_cons, other]
      | cons d cs =>
          rw [List.cons_append, List.cons_prefix_cons, List.cons_prefix_cons,
            ih (fun e member => visible e (List.mem_cons_of_mem c member))]

theorem operator?_stop (stop : Stops s) (cs : List Char) :
    Kind.operator? (cs ++ s) = Kind.operator? cs := by
  have table : ∀ mark ∈ Kind.operators, mark.1.all (!isWhitespace ·) := by decide
  apply List.find?_congr
  intro mark member
  have visible : ∀ c ∈ mark.1, ¬ isWhitespace c := by simpa using table mark member
  rw [Bool.eq_iff_iff, List.isPrefixOf_iff_prefix, List.isPrefixOf_iff_prefix]
  exact prefix_append_stop stop visible cs

theorem operator?_alone {cs after spelling : List Char} {kind : Kind}
    (found : Kind.operator? (cs ++ after) = some (spelling, kind))
    (inside : spelling.length ≤ cs.length) : Kind.operator? cs = some (spelling, kind) := by
  obtain ⟨fits, front, back, table, missed⟩ := List.find?_eq_some_iff_append.1 found
  refine List.find?_eq_some_iff_append.2 ⟨?_, front, back, table, ?_⟩
  · rw [List.isPrefixOf_iff_prefix] at fits ⊢
    exact List.prefix_of_prefix_length_le fits (List.prefix_append cs after) inside
  · intro mark member
    have longer := missed mark member
    simp only [Bool.not_eq_true', Bool.eq_false_iff, ne_eq, List.isPrefixOf_iff_prefix] at longer ⊢
    exact fun short => longer (short.trans (List.prefix_append cs after))

def IsOpen (c : Char) (cs : List Char) : Prop :=
  (c = '"' ∧ quoted cs = none) ∨ (c = '\'' ∧ '\'' ∉ cs)

theorem read_of_isOpen (p : Profile) {c : Char} {cs : List Char} (unclosed : IsOpen c cs) :
    (read p c cs).reading = .fatal .unterminatedString := by
  rcases unclosed with ⟨rfl, none⟩ | ⟨rfl, none⟩
  · change (readQuoted cs).reading = _
    rw [readQuoted, none]
  · change (readRadix cs).reading = _
    rw [readRadix_open none]

theorem readWord_stop (stop : Stops s) (p : Profile) (c : Char) (cs : List Char) :
    readWord p c (cs ++ s) = readWord p c cs := by
  simp only [readWord, word_stop stop, List.take_append_of_le_length (word_le cs)]

theorem readForeign_stop (stop : Stops s) (cs : List Char) :
    readForeign (cs ++ s) = readForeign cs := by
  rw [readForeign, takeWhile_append_stop (stop.head_of_class (by decide)),
    readForeign]

/-- Whitespace behind a lexeme, and all that follows it, makes no difference to the lexeme. -/
theorem read_stop (stop : Stops s) (p : Profile) {c : Char} {cs : List Char}
    (closed : ¬ IsOpen c cs) : read p c (cs ++ s) = read p c cs := by
  have reader := reader_read p c
  generalize read p c = front at reader ⊢
  -- Only a quoted text and a string read over whitespace, and these two are closed.
  cases reader with
  | quoted quote =>
      cases found : quoted cs with
      | none => exact absurd (.inl ⟨quote, found⟩) closed
      | some n => rw [readQuoted, readQuoted, found, quoted_append found (stop.head_ne (by decide))]
  | radix apostrophe =>
      have inside : '\'' ∈ cs := by
        by_contra outside
        exact closed (.inr ⟨apostrophe, outside⟩)
      exact readRadix_stop stop inside
  | number => exact readNumber_stop stop c cs
  | word => exact readWord_stop stop p c cs
  | mark => rw [readMark, readMark, ← List.cons_append, operator?_stop stop]
  | foreign => exact readForeign_stop stop cs
  | unexpected => rfl

theorem more_readWord (p : Profile) (c : Char) (rest : List Char) :
    (readWord p c rest).more = word rest := by
  unfold readWord
  dsimp only
  split <;> rfl

theorem readWord_alone {p : Profile} {c : Char} {cs after : List Char}
    (whole : (readWord p c (cs ++ after)).more = cs.length) :
    readWord p c cs = readWord p c (cs ++ after) := by
  rw [more_readWord] at whole
  simp only [readWord, whole, word_alone whole, List.take_left, List.take_length]

theorem readForeign_alone {cs after : List Char}
    (inside : (readForeign (cs ++ after)).more ≤ cs.length) :
    readForeign cs = readForeign (cs ++ after) := by
  rw [readForeign, takeWhile_of_append inside, readForeign]

theorem read_alone {p : Profile} {c : Char} {cs after : List Char}
    (whole : (read p c (cs ++ after)).more = cs.length)
    (mild : ∀ fault, (read p c (cs ++ after)).reading ≠ .fatal fault) :
    read p c cs = read p c (cs ++ after) := by
  have inside := Nat.le_of_eq whole
  have reader := reader_read p c
  generalize read p c = front at reader whole mild inside ⊢
  -- Each reader ends within `cs`, so it reads the same when the text ends there.
  cases reader with
  | quoted =>
      cases found : quoted (cs ++ after) with
      | none => simp [readQuoted, found] at mild
      | some n =>
          simp only [readQuoted, found] at inside
          rw [readQuoted, readQuoted, found, quoted_alone found inside]
  | radix =>
      have closed : '\'' ∈ cs ++ after := by
        by_contra outside
        simp [readRadix_open outside] at mild
      exact readRadix_alone closed inside
  | number => exact readNumber_alone inside
  | word => exact readWord_alone whole
  | mark =>
      cases found : Kind.operator? (c :: (cs ++ after)) with
      | none => simp [readMark, found] at mild
      | some mark =>
          obtain ⟨spelling, kind⟩ := mark
          have short : spelling.length ≤ (c :: cs).length := by
            simp only [readMark, found] at inside
            rw [List.length_cons]
            omega
          rw [readMark, readMark, found, operator?_alone found short]
  | foreign => exact readForeign_alone inside
  | unexpected => rfl

theorem read_respaced (stop : Stops s) {p : Profile} {c : Char} {cs after : List Char}
    {reading : Reading} (found : read p c (cs ++ after) = ⟨cs.length, reading⟩)
    (mild : ∀ fault, reading ≠ .fatal fault) : read p c (cs ++ s) = ⟨cs.length, reading⟩ := by
  have alone : read p c cs = read p c (cs ++ after) :=
    read_alone (by rw [found]) (by rw [found]; exact mild)
  have closed : ¬ IsOpen c cs := by
    intro unclosed
    have fatal := read_of_isOpen p unclosed
    rw [alone, found] at fatal
    exact mild _ fatal
  calc
    read p c (cs ++ s) = read p c cs := read_stop stop p closed
    _ = read p c (cs ++ after) := alone
    _ = ⟨cs.length, reading⟩ := found

theorem read_line {p : Profile} {c : Char} {cs : List Char} (more : List Char)
    (line : cs.getLast? = some '\n')
    (mild : ∀ fault, (read p c cs).reading ≠ .fatal fault) :
    read p c (cs ++ more) = read p c cs := by
  obtain ⟨front, rfl⟩ := List.getLast?_eq_some_iff.1 line
  have closed : ¬ IsOpen c front := by
    intro unclosed
    apply mild .unterminatedString
    apply read_of_isOpen
    rcases unclosed with ⟨quote, none⟩ | ⟨apostrophe, none⟩
    · exact .inl ⟨quote, by rw [quoted_open none]; rfl⟩
    · exact .inr ⟨apostrophe, by simp [none]⟩
  have white : isWhitespace '\n' := by decide
  calc
    read p c (front ++ ['\n'] ++ more) = read p c (front ++ '\n' :: more) := by
      rw [List.append_assoc, List.singleton_append]
    _ = read p c front := read_stop (stops_cons white) p closed
    _ = read p c (front ++ ['\n']) := (read_stop (stops_cons white) p closed).symm

end Lexeme

end AsnLexis
