import AsnLexis.Lexeme
import Mathlib

/-! What the lexeme at the front of a text can be: where it ends, and what its first scalar says
about it. -/

namespace AsnLexis.Lexeme

theorem word_le (cs : List Char) : word cs ≤ cs.length := by
  fun_induction word cs <;> grind

theorem digits_le (cs : List Char) : digits cs ≤ cs.length :=
  (List.takeWhile_sublist isDigit).length_le

theorem fraction_le (cs : List Char) : fraction cs ≤ cs.length := by
  fun_cases fraction cs <;> grind [digits_le]

theorem exponentValue_le (cs : List Char) : exponentValue cs ≤ cs.length := by
  fun_cases exponentValue cs <;> grind [digits_le]

theorem exponent_le (cs : List Char) : exponent cs ≤ cs.length := by
  fun_cases exponent cs <;> grind [exponentValue_le]

theorem quoted_le {cs : List Char} {n : Nat} (closed : quoted cs = some n) : n ≤ cs.length := by
  fun_induction quoted cs generalizing n with
  | case1 => cases closed
  | case2 rest ih =>
      obtain ⟨m, inner, rfl⟩ := Option.map_eq_some_iff.1 closed
      exact Nat.add_le_add_right (ih inner) 2
  | case3 rest =>
      cases closed
      exact Nat.succ_le_succ (Nat.zero_le _)
  | case4 c rest _ _ ih =>
      obtain ⟨m, inner, rfl⟩ := Option.map_eq_some_iff.1 closed
      exact Nat.add_le_add_right (ih inner) 1

theorem upToApostrophe_eq_some {cs contents : List Char}
    (closed : upToApostrophe cs = some contents) : ∃ after, cs = contents ++ '\'' :: after := by
  unfold upToApostrophe at closed
  split_ifs at closed with inside
  cases closed
  have split := List.takeWhile_append_dropWhile (p := (· != '\'')) (l := cs)
  have found : cs.dropWhile (· != '\'') ≠ [] := by
    intro none
    have all := List.dropWhile_eq_nil_iff.1 none '\'' (by simpa using inside)
    simp at all
  obtain ⟨d, after, behind⟩ := List.exists_cons_of_ne_nil found
  have head := List.head_dropWhile_not (· != '\'') found
  simp only [behind, List.head_cons, bne_eq_false_iff_eq] at head
  subst head
  exact ⟨after, by rw [← behind, split]⟩

theorem upToApostrophe_iff {contents after : List Char} :
    upToApostrophe (contents ++ '\'' :: after) = some contents ↔ '\'' ∉ contents := by
  have inside : (contents ++ '\'' :: after).contains '\'' := by simp
  rw [upToApostrophe, if_pos inside, Option.some.injEq]
  constructor
  · intro same member
    rw [← same] at member
    simpa using List.mem_takeWhile_imp member
  · intro free
    rw [List.takeWhile_append_of_pos]
    · simp
    · intro c member
      have other : c ≠ '\'' := by
        rintro rfl
        exact free member
      simpa using other

theorem exists_contents {cs : List Char} (closed : '\'' ∈ cs) :
    ∃ contents after, cs = contents ++ '\'' :: after ∧ '\'' ∉ contents := by
  have found : upToApostrophe cs = some (cs.takeWhile (· != '\'')) := by
    rw [upToApostrophe, if_pos (by simpa using closed)]
  generalize cs.takeWhile (· != '\'') = contents at found
  obtain ⟨after, rfl⟩ := upToApostrophe_eq_some found
  exact ⟨contents, after, rfl, upToApostrophe_iff.1 found⟩

def radixFront (contents : List Char) (letter : Option Char) : Front :=
  ⟨contents.length + 1 + (if isRadix letter then 1 else 0),
    if radixKind contents letter == .unknown then .malformed .malformedString
    else .plain (radixKind contents letter)⟩

theorem readRadix_eq {contents : List Char} (free : '\'' ∉ contents) (after : List Char) :
    readRadix (contents ++ '\'' :: after) = radixFront contents after.head? := by
  have behind : (contents ++ '\'' :: after).drop (contents.length + 1) = after := by
    rw [← List.drop_drop, List.drop_left]
    rfl
  rw [readRadix, upToApostrophe_iff.2 free]
  simp only [behind]
  rfl

theorem readRadix_open {cs : List Char} (unclosed : '\'' ∉ cs) :
    readRadix cs = ⟨cs.length, .fatal .unterminatedString⟩ := by
  rw [readRadix, upToApostrophe, if_neg (by simpa using unclosed)]

theorem radixKind_cases (contents : List Char) (radix : Option Char) :
    radixKind contents radix ∈ [Kind.bString, .hString, .unknown] := by
  unfold radixKind
  dsimp only
  split
  · split_ifs <;> simp
  · split_ifs <;> simp
  · simp

theorem operator?_eq_some {cs spelling : List Char} {kind : Kind}
    (found : Kind.operator? cs = some (spelling, kind)) :
    (spelling, kind) ∈ Kind.operators ∧ spelling <+: cs := by
  refine ⟨List.mem_of_find?_eq_some found, ?_⟩
  simpa using List.find?_some found

def markHeads : List Char :=
  ['{', '}', '<', '>', ',', '.', '(', ')', '[', ']', '-', ':', '=', ';', '@', '|', '!', '^', '&',
    '*', '/']

theorem mem_markHeads {c : Char} (mark : isPunctuation c) : c ∈ markHeads := by
  simpa [isPunctuation, markHeads] using mark

theorem exists_operator {c : Char} (mark : isPunctuation c) (rest : List Char) :
    ∃ spelling kind, Kind.operator? (c :: rest) = some (spelling, kind) := by
  have table : markHeads.all (fun c => Kind.operators.any (·.1 == [c])) := by decide
  have covered := List.all_eq_true.1 table c (mem_markHeads mark)
  obtain ⟨entry, listed, single⟩ : ∃ entry ∈ Kind.operators, entry.1 = [c] := by
    simpa only [List.any_eq_true, beq_iff_eq] using covered
  have found : (Kind.operator? (c :: rest)).isSome := by
    rw [Kind.operator?, List.find?_isSome]
    exact ⟨entry, listed, by simp [single]⟩
  obtain ⟨⟨spelling, kind⟩, operator⟩ := Option.isSome_iff_exists.1 found
  exact ⟨spelling, kind, operator⟩

theorem read_punctuation (p : Profile) {c : Char} (mark : isPunctuation c) (rest : List Char) :
    ∃ spelling kind, Kind.operator? (c :: rest) = some (spelling, kind) ∧
      read p c rest = ⟨spelling.length - 1, .plain kind⟩ := by
  obtain ⟨spelling, kind, operator⟩ := exists_operator mark rest
  refine ⟨spelling, kind, operator, ?_⟩
  have table : markHeads.all (fun c => c != '"' && c != '\'' && !isDigit c &&
      !(isHyphen c && c != hyphenMinus) && !isIdentifierStart c && c.toNat < 0x80) := by decide
  have other := List.all_eq_true.1 table c (mem_markHeads mark)
  simp only [Bool.and_eq_true, bne_iff_ne, Bool.not_eq_true', decide_eq_true_eq] at other
  obtain ⟨⟨⟨⟨⟨quote, apostrophe⟩, digit⟩, hyphen⟩, start⟩, low⟩ := other
  have noWord : (p.isStart c || (0x80 ≤ c.toNat && isIdentifierContinue c)) = false := by
    simp [Profile.isStart, start, low]
  simp only [read, beq_iff_eq, quote, apostrophe, digit, hyphen, noWord, mark, operator, if_false,
    if_true, Bool.false_eq_true]

def readMark (c : Char) (rest : List Char) : Front :=
  match Kind.operator? (c :: rest) with
  | some (spelling, kind) => ⟨spelling.length - 1, .plain kind⟩
  | none => ⟨0, .fatal .unexpectedCharacter⟩

/-- The ways to read what stands behind the first character of a lexeme. This character alone decides
between them. -/
inductive Reader (p : Profile) (c : Char) : (List Char → Front) → Prop
  | quoted (quote : c = '"') : Reader p c readQuoted
  | radix (apostrophe : c = '\'') : Reader p c readRadix
  | number (digit : isDigit c) : Reader p c (readNumber c)
  | word (start : p.isStart c ∨ (0x80 ≤ c.toNat ∧ isIdentifierContinue c)) (unquoted : c ≠ '\'')
      (noDigit : ¬ isDigit c) : Reader p c (readWord p c)
  | mark : Reader p c (readMark c)
  | foreign (symbol : isForeignSymbol c) : Reader p c readForeign
  | unexpected : Reader p c fun _ => ⟨0, .fatal .unexpectedCharacter⟩

theorem reader_read (p : Profile) (c : Char) : Reader p c (read p c) := by
  let unread (_ : List Char) : Front := ⟨0, .fatal .unexpectedCharacter⟩
  have dispatch : read p c =
      if c == '"' then readQuoted
      else if c == '\'' then readRadix
      else if isDigit c then readNumber c
      else if isHyphen c && c != hyphenMinus then unread
      else if p.isStart c || (0x80 ≤ c.toNat && isIdentifierContinue c) then readWord p c
      else if isPunctuation c then readMark c
      else if isForeignSymbol c then readForeign
      else unread := by
    funext rest
    simp only [ite_apply]
    rfl
  rw [dispatch]
  split_ifs with quote apostrophe digit hyphen start punctuation symbol
  · exact .quoted (by simpa using quote)
  · exact .radix (by simpa using apostrophe)
  · exact .number digit
  · exact .unexpected
  · exact .word (by simpa using start) (by simpa using apostrophe) digit
  · exact .mark
  · exact .foreign symbol
  · exact .unexpected

/-- The ways to read a lexeme that begins with `c`, and what each of them can give. -/
inductive Reads (p : Profile) (c : Char) (rest : List Char) : Front → Prop
  | literal {n : Nat} (quote : c = '"') (closed : quoted rest = some n) :
      Reads p c rest ⟨n, .literal⟩
  | radix {n : Nat} {kind : Kind} (apostrophe : c = '\'')
      (front : readRadix rest = ⟨n, .plain kind⟩) (inside : n ≤ rest.length)
      (known : kind = .bString ∨ kind = .hString) : Reads p c rest ⟨n, .plain kind⟩
  | badRadix {n : Nat} (apostrophe : c = '\'') (inside : n ≤ rest.length) :
      Reads p c rest ⟨n, .malformed .malformedString⟩
  | number {n : Nat} {kind : Kind} (digit : isDigit c)
      (front : readNumber c rest = ⟨n, .plain kind⟩) (inside : n ≤ rest.length)
      (known : kind = .number ∨ kind = .realNumber) : Reads p c rest ⟨n, .plain kind⟩
  | badNumber {n : Nat} (digit : isDigit c) (inside : n ≤ rest.length) :
      Reads p c rest ⟨n, .malformed .malformedNumber⟩
  | word {id : Identifier}
      (start : p.isStart c ∨ (0x80 ≤ c.toNat ∧ isIdentifierContinue c))
      (checked : p.check (c :: rest.take (word rest)) = .ok id) :
      Reads p c rest ⟨word rest, .word id⟩
  | badWord {i : Nat} {flaw : IdentifierFlaw}
      (start : p.isStart c ∨ (0x80 ≤ c.toNat ∧ isIdentifierContinue c)) (unquoted : c ≠ '\'')
      (noDigit : ¬ isDigit c) (flawed : p.check (c :: rest.take (word rest)) = .error (i, flaw)) :
      Reads p c rest ⟨word rest, .badWord i flaw⟩
  | mark {spelling : List Char} {kind : Kind}
      (found : Kind.operator? (c :: rest) = some (spelling, kind)) :
      Reads p c rest ⟨spelling.length - 1, .plain kind⟩
  | foreign {n : Nat} (symbol : isForeignSymbol c) (inside : n ≤ rest.length) :
      Reads p c rest ⟨n, .malformed .unknownPunctuation⟩
  | unterminated : Reads p c rest ⟨rest.length, .fatal .unterminatedString⟩
  | unexpected : Reads p c rest ⟨0, .fatal .unexpectedCharacter⟩

section

variable (p : Profile) {c : Char} (rest : List Char)

theorem reads_readQuoted (quote : c = '"') : Reads p c rest (readQuoted rest) := by
  unfold readQuoted
  split
  next n closed => exact .literal quote closed
  next => exact .unterminated

theorem reads_readRadix (apostrophe : c = '\'') : Reads p c rest (readRadix rest) := by
  by_cases closed : '\'' ∈ rest
  · obtain ⟨contents, after, rfl, free⟩ := exists_contents closed
    have inside : (radixFront contents after.head?).more
        ≤ (contents ++ '\'' :: after).length := by
      cases after with
      | nil => simp [radixFront, isRadix]
      | cons d after =>
          simp only [radixFront, List.length_append, List.length_cons]
          split <;> omega
    have front := readRadix_eq free after
    have listed := radixKind_cases contents after.head?
    simp only [List.mem_cons, List.not_mem_nil, or_false] at listed
    rw [front]
    simp only [radixFront] at front inside ⊢
    rcases listed with kind | kind | kind
    · rw [kind] at front ⊢
      exact .radix apostrophe front inside (.inl rfl)
    · rw [kind] at front ⊢
      exact .radix apostrophe front inside (.inr rfl)
    · rw [kind]
      exact .badRadix apostrophe inside
  · rw [readRadix_open closed]
    exact .unterminated

theorem reads_readNumber (digit : isDigit c) : Reads p c rest (readNumber c rest) := by
  have whole := digits_le rest
  have part := fraction_le (rest.drop (digits rest))
  have power := exponent_le (rest.drop (digits rest + fraction (rest.drop (digits rest))))
  simp only [List.length_drop] at part power
  have front : readNumber c rest = readNumber c rest := rfl
  conv_rhs at front => unfold readNumber
  rw [front]
  dsimp only at front ⊢
  split_ifs at front ⊢
  · exact .badNumber digit (by omega)
  · exact .number digit front (by omega) (.inl rfl)
  · exact .number digit front (by omega) (.inr rfl)

theorem reads_readWord (start : p.isStart c ∨ (0x80 ≤ c.toNat ∧ isIdentifierContinue c))
    (unquoted : c ≠ '\'') (noDigit : ¬ isDigit c) : Reads p c rest (readWord p c rest) := by
  unfold readWord
  dsimp only
  split
  next checked => exact .word start checked
  next flawed => exact .badWord start unquoted noDigit flawed

theorem reads_readForeign (symbol : isForeignSymbol c) : Reads p c rest (readForeign rest) :=
  .foreign symbol (List.takeWhile_sublist isForeignSymbol).length_le

end

theorem reads_read (p : Profile) (c : Char) (rest : List Char) :
    Reads p c rest (read p c rest) := by
  have reader := reader_read p c
  generalize read p c = front at reader ⊢
  cases reader with
  | quoted quote => exact reads_readQuoted p rest quote
  | radix apostrophe => exact reads_readRadix p rest apostrophe
  | number digit => exact reads_readNumber p rest digit
  | word start unquoted noDigit => exact reads_readWord p rest start unquoted noDigit
  | mark =>
      unfold readMark
      split
      next spelling kind found => exact .mark found
      next => exact .unexpected
  | foreign symbol => exact reads_readForeign p rest symbol
  | unexpected => exact .unexpected

theorem more_le (p : Profile) (c : Char) (rest : List Char) :
    (read p c rest).more ≤ rest.length := by
  have reads := reads_read p c rest
  generalize read p c rest = front at reads
  cases reads with
  | literal _ closed => exact quoted_le closed
  | word => exact word_le rest
  | badWord => exact word_le rest
  | mark found =>
      have inside := (operator?_eq_some found).2.length_le
      simp only [List.length_cons] at inside ⊢
      omega
  | unterminated => exact Nat.le_refl _
  | unexpected => exact Nat.zero_le _
  | _ => assumption

theorem read_fatal {p : Profile} {c : Char} {rest : List Char} {fault : Fault}
    (fatal : (read p c rest).reading = .fatal fault) :
    (fault = .unterminatedString ∧ (read p c rest).more = rest.length)
      ∨ (fault = .unexpectedCharacter ∧ (read p c rest).more = 0) := by
  have reads := reads_read p c rest
  generalize read p c rest = front at reads fatal
  cases reads with
  | unterminated =>
      cases fatal
      exact .inl ⟨rfl, rfl⟩
  | unexpected =>
      cases fatal
      exact .inr ⟨rfl, rfl⟩
  | _ => cases fatal

theorem kind_of_plain {p : Profile} {c : Char} {rest : List Char} {kind : Kind}
    (plain : (read p c rest).reading = .plain kind) :
    kind ∉ [Kind.unknown, .endOfInput, .literal, .identifier, .keyword] := by
  have reads := reads_read p c rest
  generalize read p c rest = front at reads plain
  cases reads with
  | radix _ _ _ known =>
      cases plain
      rcases known with rfl | rfl <;> decide
  | number _ _ _ known =>
      cases plain
      rcases known with rfl | rfl <;> decide
  | mark found =>
      cases plain
      have listed : ∀ mark ∈ Kind.operators,
          mark.2 ∉ [Kind.unknown, .endOfInput, .literal, .identifier, .keyword] := by decide
      exact listed _ (operator?_eq_some found).1
  | _ => cases plain

def faultOf (c : Char) : Fault :=
  if c = '\'' then .malformedString
  else if isDigit c then .malformedNumber
  else if isForeignSymbol c then .unknownPunctuation
  else .invalidIdentifier

theorem eq_of_isForeignSymbol {c : Char} (symbol : isForeignSymbol c) :
    c ∈ ['#', '%', '+', '?', '\\', '`', '~'] := by
  simpa [isForeignSymbol] using symbol

theorem not_start_of_isForeignSymbol {p : Profile} {c : Char} (symbol : isForeignSymbol c) :
    ¬ (p.isStart c ∨ (0x80 ≤ c.toNat ∧ isIdentifierContinue c)) := by
  have plain : c.toNat < 0x80 ∧ isIdentifierStart c = false := by
    have listed := eq_of_isForeignSymbol symbol
    simp only [List.mem_cons, List.not_mem_nil, or_false] at listed
    rcases listed with rfl | rfl | rfl | rfl | rfl | rfl | rfl <;> decide
  rintro (start | ⟨high, _⟩)
  · simp [Profile.isStart, plain.2] at start
  · omega

theorem fault_of_malformed {p : Profile} {c : Char} {rest : List Char} {fault : Fault}
    (malformed : (read p c rest).reading = .malformed fault) :
    fault = faultOf c ∧ fault ≠ .invalidIdentifier := by
  have reads := reads_read p c rest
  generalize read p c rest = front at reads malformed
  cases reads with
  | badRadix apostrophe =>
      cases malformed
      simp [faultOf, apostrophe]
  | badNumber digit =>
      cases malformed
      have unquoted : c ≠ '\'' := by
        rintro rfl
        exact absurd digit (by decide)
      simp [faultOf, digit, unquoted]
  | foreign symbol =>
      cases malformed
      have listed := eq_of_isForeignSymbol symbol
      simp only [List.mem_cons, List.not_mem_nil, or_false] at listed
      rcases listed with rfl | rfl | rfl | rfl | rfl | rfl | rfl <;> decide
  | _ => cases malformed

theorem adjacentHyphen?_lt {cs : List Char} {i : Nat} (found : adjacentHyphen? cs = some i) :
    i < cs.length := by
  fun_induction adjacentHyphen? cs generalizing i with
  | case1 =>
      cases found
      simp
  | case2 a b rest _ ih =>
      obtain ⟨j, later, rfl⟩ := Option.map_eq_some_iff.1 found
      exact Nat.succ_lt_succ (ih later)
  | case3 => cases found

theorem flaw?_le {p : Profile} {cs : List Char} {i : Nat} {flaw : IdentifierFlaw}
    (found : p.flaw? cs = some (i, flaw)) : i ≤ cs.length - 1 := by
  unfold Profile.flaw? at found
  split at found
  next => cases found; simp
  next c rest =>
    simp only [List.length_cons, Nat.add_sub_cancel]
    split at found
    next => cases found; exact Nat.zero_le _
    split at found
    next j later =>
      cases found
      exact (List.findIdx?_eq_some_iff_getElem.1 later).1
    split at found
    next j later =>
      cases found
      exact Nat.le_of_lt_succ (adjacentHyphen?_lt later)
    split at found
    next => cases found; exact Nat.le_refl _
    next => cases found

theorem index_of_check {p : Profile} {c : Char} {cs : List Char} {i : Nat} {flaw : IdentifierFlaw}
    (flawed : p.check (c :: cs) = .error (i, flaw)) : i ≤ cs.length := by
  rw [Profile.check, List.isEmpty_cons, if_neg (by simp)] at flawed
  dsimp only at flawed
  split at flawed
  next j flaw found =>
    have inside := flaw?_le found
    simp only [Except.error.injEq, Prod.mk.injEq] at flawed
    split at flawed
    next same =>
      rw [same, List.length_cons, Nat.add_sub_cancel] at inside
      omega
    next => omega
  next => cases flawed

theorem badWord_index_le {p : Profile} {c : Char} {rest : List Char} {i : Nat}
    {flaw : IdentifierFlaw} (bad : (read p c rest).reading = .badWord i flaw) :
    i ≤ (read p c rest).more ∧ faultOf c = .invalidIdentifier := by
  have reads := reads_read p c rest
  generalize read p c rest = front at reads bad
  cases reads with
  | badWord start unquoted noDigit flawed =>
      cases bad
      refine ⟨?_, ?_⟩
      · have inside := index_of_check flawed
        rwa [List.length_take, Nat.min_eq_left (word_le rest)] at inside
      · have native : ¬ isForeignSymbol c := fun symbol => not_start_of_isForeignSymbol symbol start
        simp [faultOf, unquoted, noDigit, native]
  | _ => cases bad

end AsnLexis.Lexeme
