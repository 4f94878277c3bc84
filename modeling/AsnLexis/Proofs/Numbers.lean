import AsnLexis.Proofs.Spelling
import Mathlib

/-! Numbers are read by longest match. What a scan takes is the longest numeral in front of it,
zeros in front included; whether these are allowed is asked only afterwards. -/

namespace AsnLexis

namespace Lexeme

/-- Digits, a fraction or none, an exponent or none. Zeros may stand in front. -/
inductive IsNumeral : List Char → Prop
  | parts {whole part power : List Char} (digits : IsDigits whole)
      (point : part = [] ∨ IsFraction part) (scale : power = [] ∨ IsExponent power) :
      IsNumeral (whole ++ (part ++ power))

/-- The integer part has more than one digit, and the first of them is 0. -/
def HasLeadingZero (cs : List Char) : Prop :=
  1 < (cs.takeWhile isDigit).length ∧ cs.head? = some '0'

/-- `lexeme` is the longest numeral at the front of `text`, and `left` is what stands behind it. -/
structure Munches (text lexeme left : List Char) : Prop where
  split : text = lexeme ++ left
  numeral : IsNumeral lexeme
  longest : ∀ other, IsNumeral other → other <+: text → other.length ≤ lexeme.length

theorem Munches.unique {text first second left rest : List Char} (one : Munches text first left)
    (other : Munches text second rest) : first = second := by
  have front : first <+: text := ⟨left, one.split.symm⟩
  have back : second <+: text := ⟨rest, other.split.symm⟩
  have less := other.longest first one.numeral front
  have more := one.longest second other.numeral back
  exact (List.prefix_of_prefix_length_le front back less).eq_of_length_le more

theorem length_le_digits {ds : List Char} (all : ∀ c ∈ ds, isDigit c) (rest : List Char) :
    ds.length ≤ digits (ds ++ rest) := by
  rw [digits, List.takeWhile_append_of_pos all, List.length_append]
  exact Nat.le_add_right _ _

theorem length_le_fraction {part : List Char} (point : part = [] ∨ IsFraction part)
    (rest : List Char) : part.length ≤ fraction (part ++ rest) := by
  rcases point with rfl | @⟨ds, some⟩
  · exact Nat.zero_le _
  · rw [List.cons_append, fraction_cons, if_pos ⟨rfl, some.starts rest⟩]
    exact Nat.succ_le_succ (length_le_digits some.2 rest)

theorem length_le_exponent {power : List Char} (scale : power = [] ∨ IsExponent power)
    (rest : List Char) : power.length ≤ exponent (power ++ rest) := by
  have value {e : Char} {ds : List Char} (letter : e = 'e' ∨ e = 'E') (some : ds ≠ [])
      (length : ds.length ≤ exponentValue (ds ++ rest)) :
      (e :: ds).length ≤ exponent (e :: (ds ++ rest)) := by
    have pos := List.length_pos_of_ne_nil some
    have nonzero : exponentValue (ds ++ rest) ≠ 0 := by omega
    simpa [exponent, letter, nonzero] using length
  rcases scale with rfl | ⟨letter, some⟩ | @⟨e, ds, letter, some⟩
  · exact Nat.zero_le _
  · apply value letter some.1
    rw [exponentValue_digits some]
    exact length_le_digits some.2 rest
  · apply @value e ('-' :: ds) letter (List.cons_ne_nil _ _)
    rw [List.cons_append, exponentValue_cons, if_pos rfl, if_pos (some.starts rest)]
    exact Nat.succ_le_succ (length_le_digits some.2 rest)

theorem length_le_more {c : Char} {ds part power : List Char} (all : ∀ d ∈ ds, isDigit d)
    (point : part = [] ∨ IsFraction part) (scale : power = [] ∨ IsExponent power)
    (rest : List Char) :
    (ds ++ (part ++ power)).length ≤ (readNumber c (ds ++ (part ++ (power ++ rest)))).more := by
  have whole := length_le_digits all (part ++ (power ++ rest))
  -- Reading goes beyond the digits, or beyond the fraction, only where the numeral ends with them.
  rcases scale with rfl | scale
  · rcases point with rfl | point
    · simp only [readNumber, List.append_nil, List.nil_append] at whole ⊢
      omega
    · have length := length_le_fraction (.inr point) ([] ++ rest)
      have stop : ¬ startsWithDigit (part ++ ([] ++ rest)) := by
        obtain ⟨_⟩ := point
        simp [startsWithDigit, isDigit]
      simp only [readNumber, digits_append all stop, List.drop_left, List.length_append,
        List.append_nil] at length ⊢
      omega
  · have stop : ¬ startsWithDigit (power ++ rest) ∧ (power ++ rest).head? ≠ some '.' := by
      rcases scale with ⟨rfl | rfl, _⟩ | ⟨rfl | rfl, _⟩ <;> simp [startsWithDigit, isDigit]
    obtain ⟨fractional, further⟩ := fraction_append point stop.1 stop.2
    have length := length_le_exponent (.inr scale) rest
    simp only [readNumber, digits_append all further, List.drop_left, fractional, ← List.drop_drop,
      List.length_append] at length ⊢
    omega

theorem munches_of_more {c : Char} {tail left : List Char} (numeral : IsNumeral (c :: tail))
    (more : (readNumber c (tail ++ left)).more = tail.length) :
    Munches (c :: (tail ++ left)) (c :: tail) left where
  split := rfl
  numeral := numeral
  longest := by
    -- Another numeral begins with the same digit, and behind that it has no more than is read.
    rintro _ @⟨whole, part, power, some, point, scale⟩ ⟨rest, front⟩
    obtain ⟨d, ds, rfl⟩ := List.exists_cons_of_ne_nil some.1
    simp only [List.cons_append, List.append_assoc, List.cons.injEq] at front
    obtain ⟨rfl, same⟩ := front
    have bound := length_le_more (c := d) (List.forall_mem_cons.1 some.2).2 point scale rest
    rw [same, more] at bound
    exact Nat.succ_le_succ bound

theorem munches_parts {c : Char} {ds part power left : List Char} (all : ∀ d ∈ c :: ds, isDigit d)
    (point : part = [] ∨ IsFraction part) (scale : power = [] ∨ IsExponent power)
    (whole : digits (ds ++ (part ++ (power ++ left))) = ds.length)
    (fractional : fraction (part ++ (power ++ left)) = part.length)
    (exponential : exponent (power ++ left) = power.length) :
    Munches (c :: (ds ++ (part ++ power) ++ left)) (c :: (ds ++ (part ++ power))) left := by
  have numeral : IsNumeral (c :: ds ++ (part ++ power)) :=
    .parts ⟨List.cons_ne_nil c ds, all⟩ point scale
  refine munches_of_more numeral ?_
  rw [List.append_assoc, List.append_assoc, readNumber_parts left whole fractional exponential]

theorem exists_munches {c : Char} (digit : isDigit c) (rest : List Char) :
    ∃ tail left reading, Munches (c :: rest) (c :: tail) left ∧
      readNumber c rest = ⟨tail.length, reading⟩ ∧
      ((HasLeadingZero (c :: tail) ∧ reading = .malformed .malformedNumber) ∨
        (¬ HasLeadingZero (c :: tail) ∧ ∃ kind, reading = .plain kind)) := by
  obtain ⟨ds, rest, rfl, all, whole⟩ := exists_digits rest
  obtain ⟨part, rest, rfl, point, fractional⟩ := exists_fraction rest
  obtain ⟨power, left, rfl, scale, exponential⟩ := exists_exponent rest
  have all' : ∀ d ∈ c :: ds, isDigit d := List.forall_mem_cons.2 ⟨digit, all⟩
  have integer : (c :: (ds ++ (part ++ power))).takeWhile isDigit = c :: ds := by
    rw [← List.cons_append, List.takeWhile_append_of_pos all']
    have none := digits_pos.not.2 (fraction_eq point scale).2
    have empty : (part ++ power).takeWhile isDigit = [] := by simpa [digits] using none
    rw [empty, List.append_nil]
  have zero : HasLeadingZero (c :: (ds ++ (part ++ power))) ↔ c = '0' ∧ ds ≠ [] := by
    rw [HasLeadingZero, integer, List.length_cons, List.head?_cons, Option.some_inj, and_comm,
      Nat.lt_add_left_iff_pos, List.length_pos_iff]
  have munches := munches_parts all' point scale whole fractional exponential
  rw [List.append_assoc, List.append_assoc] at munches
  refine ⟨ds ++ (part ++ power), left, _, munches,
    readNumber_parts left whole fractional exponential, ?_⟩
  rw [zero]
  by_cases leading : c = '0' ∧ ds ≠ []
  · exact .inl ⟨leading, if_pos leading⟩
  · exact .inr ⟨leading, _, if_neg leading⟩

theorem Munches.point {whole more lexeme left : List Char} (some : IsDigits whole)
    (stop : ¬ startsWithDigit more) (munches : Munches (whole ++ '.' :: more) lexeme left) :
    lexeme = whole := by
  obtain ⟨c, ds, rfl⟩ := List.exists_cons_of_ne_nil some.1
  have further : ¬ startsWithDigit ('.' :: more) := by simp [startsWithDigit, isDigit]
  have alone : Munches (c :: ds ++ '.' :: more) (c :: ds) ('.' :: more) := by
    have parts := @munches_parts c ds [] [] ('.' :: more) some.2
      (.inl rfl) (.inl rfl) (digits_append (List.forall_mem_cons.1 some.2).2 further)
      (by simp [fraction_cons, stop]) (by simp [exponent])
    simpa using parts
  exact munches.unique alone

theorem Munches.letter {whole part more lexeme left : List Char} {e : Char}
    (integer : IsDigits whole) (point : part = [] ∨ IsFraction part) (letter : e = 'e' ∨ e = 'E')
    (stop : ¬ startsWithDigit more) (minus : ∀ rest, more = '-' :: rest → ¬ startsWithDigit rest)
    (munches : Munches (whole ++ part ++ e :: more) lexeme left) : lexeme = whole ++ part := by
  obtain ⟨c, ds, rfl⟩ := List.exists_cons_of_ne_nil integer.1
  have none : exponentValue more = 0 := by
    cases more with
    | nil => rfl
    | cons d more =>
        rw [exponentValue_cons]
        split_ifs with sign starts
        · exact absurd starts (minus more (by rw [sign]))
        · rfl
        · exact Nat.eq_zero_of_not_pos (digits_pos.not.2 stop)
  have apart : ¬ startsWithDigit (e :: more) ∧ (e :: more).head? ≠ some '.' := by
    rcases letter with rfl | rfl <;> simp [startsWithDigit, isDigit]
  obtain ⟨fractional, further⟩ := fraction_append point apart.1 apart.2
  have alone : Munches (c :: ds ++ part ++ e :: more) (c :: ds ++ part) (e :: more) := by
    have parts := @munches_parts c ds part [] (e :: more) integer.2 point (.inl rfl)
      (digits_append (List.forall_mem_cons.1 integer.2).2 further) fractional
      (by simp [exponent, none])
    simpa using parts
  exact munches.unique alone

end Lexeme

namespace Lexer

/-- What a scan with the number `text` in front of it does: it takes the longest numeral there and
returns a token for it, which is unknown, and has a diagnostic, only if zeros stand in front. -/
structure ReadsNumber (source : Source) (l after : Lexer) (text lexeme : List Char) (t : Token) :
    Prop where
  bytes : source.sliceSpan t.span = Utf8.encode lexeme
  munches : Lexeme.Munches text lexeme after.rest
  point : ∀ whole more, Lexeme.IsDigits whole → ¬ Lexeme.startsWithDigit more →
    text = whole ++ '.' :: more → lexeme = whole
  letter : ∀ whole part e more, Lexeme.IsDigits whole → (part = [] ∨ Lexeme.IsFraction part) →
    (e = 'e' ∨ e = 'E') → ¬ Lexeme.startsWithDigit more →
    (∀ rest, more = '-' :: rest → ¬ Lexeme.startsWithDigit rest) →
    text = whole ++ part ++ e :: more → lexeme = whole ++ part
  unknown : t.kind = .unknown ↔ Lexeme.HasLeadingZero lexeme
  flawed : Lexeme.HasLeadingZero lexeme → ∃ d,
    after.diagnostics.toList = l.diagnostics.toList ++ [d] ∧
      d.code = utf8 Code.malformedNumber.name ∧ d.span = t.span
  sound : ¬ Lexeme.HasLeadingZero lexeme →
    after.diagnostics.toList = l.diagnostics.toList

theorem Standing.scan_number {source : Source} {l : Lexer}
    (encoded : source.text = Utf8.encode source.chars) (standing : l.Standing source.chars)
    (going : l.final = none) {k : Nat} {c : Char} {cs : List Char}
    (trivia : Trivia.gap l.rest = .closed k) (front : l.rest.drop k = c :: cs)
    (digit : isDigit c) :
    ∃ t lexeme, l.scan.1 = .token t ∧ ReadsNumber source l l.scan.2 (c :: cs) lexeme t := by
  obtain ⟨tail, left, reading, munches, number, readings⟩ := Lexeme.exists_munches digit cs
  obtain rfl : cs = tail ++ left := (List.cons.inj munches.split).2
  have read : Lexeme.read l.profile c (tail ++ left) = ⟨tail.length, reading⟩ := by
    rw [Lexeme.read_digit l.profile digit, number]
  have mild : ∀ fault, reading ≠ .fatal fault := by
    rcases readings with ⟨_, rfl⟩ | ⟨_, _, rfl⟩ <;> simp
  obtain ⟨x, lexeme, same, stands, token, passes⟩ :=
    standing.scan_passes going trivia front read mild
  have behind : l.scan.2.rest = left := by
    rw [passes.reads.rest]
    exact drop_add_length stands.lexeme
  have kind : (x.token source.chars).kind = reading.kind := by rw [Placed.kind_token, same]
  refine ⟨_, c :: tail, token, ⟨?_, behind ▸ munches, ?_, ?_, ?_, ?_, ?_⟩⟩
  · rw [Placed.span_token, Placed.sliceSpan_of_drop encoded stands.lexeme, Placed.text, lexeme]
  · intro whole more integer stop text
    exact (text ▸ munches).point integer stop
  · intro whole part e more integer point letter stop minus text
    exact (text ▸ munches).letter integer point letter stop minus
  · rw [kind]
    rcases readings with ⟨zero, rfl⟩ | ⟨sound, known, rfl⟩
    · exact iff_of_true rfl zero
    · refine iff_of_false ?_ sound
      rintro rfl
      exact Lexeme.kind_of_plain (congrArg Lexeme.Front.reading read) (by decide)
  · intro zero
    rcases readings with ⟨_, rfl⟩ | ⟨sound, _⟩
    · let e : LexError :=
        { reason := .fault .malformedNumber, span := x.span source.chars, text := x.text }
      have known : Fault.malformedNumber.code? = some .malformedNumber := rfl
      have code : (Diagnostic.ofError (.lexical e) (x.span source.chars)).code
          = utf8 Code.malformedNumber.name := code_ofError rfl known _
      refine ⟨_, ?_, code, (Placed.span_token _ x).symm⟩
      rw [passes.diagnostics, Placed.diagnostic?, same]
      rfl
    · exact absurd zero sound
  · intro sound
    rcases readings with ⟨zero, _⟩ | ⟨_, known, rfl⟩
    · exact absurd zero sound
    · rw [passes.diagnostics, Placed.diagnostic?, same]
      exact List.append_nil _

end Lexer

/-- In every run, a scan with a digit in front of it, trivia aside, takes the longest numeral that
stands there: digits, a point and digits or not, an exponent or not. A point, an e or an e and a
minus that no digit follows are left. The token is unknown, and has a diagnostic over all of it,
exactly when its integer part has several digits of which the first is 0. -/
theorem numbers_munch_maximally (settings : Settings) {input : Bytes} {source : Source}
    (decoded : Source.read input = .ok source) :
    let l := Lexer.start settings source
    ∀ n k c cs, (l.afterScans n).final = none → Trivia.gap (l.afterScans n).rest = .closed k →
      (l.afterScans n).rest.drop k = c :: cs → isDigit c →
      ∃ t lexeme, l.returned n = .token t ∧
        Lexer.ReadsNumber source (l.afterScans n) (l.afterScans (n + 1)) (c :: cs) lexeme t := by
  intro l n k c cs going trivia front digit
  have encoded := (Source.read_eq_ok_iff.1 decoded).2
  have standing := (Lexer.standing_start settings source).scans n
  exact standing.scan_number encoded going trivia front digit

theorem numbers_munch_maximally_dangling_exponent :
    let cs := ['\n', '0', '1', '.', '5', 'e', '-', '.', '.']
    let source : Source := ⟨false, Utf8.encode cs, cs⟩
    let l := Lexer.start ⟨[], .ascii⟩ source
    Source.read (Utf8.encode cs) = .ok source ∧ ∃ t, l.returned 0 = .token t ∧
      Lexer.ReadsNumber source l l.scan.2 cs.tail ['0', '1', '.', '5'] t ∧ t.kind = .unknown := by
  intro cs source l
  have decoded : Source.read (Utf8.encode cs) = .ok source := Source.read_encode (by decide)
  have trivia : Trivia.gap cs = .closed 1 := Trivia.gap_white (by decide) (by decide)
  obtain ⟨t, lexeme, token, reads⟩ :=
    numbers_munch_maximally ⟨[], .ascii⟩ decoded 0 1 '0' cs.tail.tail rfl trivia rfl rfl
  have text : lexeme = ['0', '1', '.', '5'] :=
    reads.letter ['0', '1'] ['.', '5'] 'e' ['-', '.', '.'] ⟨by simp, by simp [isDigit]⟩
      (.inr (.point ⟨by simp, by simp [isDigit]⟩)) (.inl rfl) (by decide) (by rintro _ ⟨⟩; decide)
      rfl
  subst text
  exact ⟨decoded, t, token, reads, reads.unknown.2 ⟨by decide, rfl⟩⟩

end AsnLexis
