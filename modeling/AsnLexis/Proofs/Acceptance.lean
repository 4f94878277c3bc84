import AsnLexis.Proofs.FormLaws
import AsnLexis.Proofs.Lexeme
import Mathlib

/-! The grammar of identifiers: a start, scalars that continue it, and between the hyphens no part
that is empty. A candidate is an identifier exactly when its normal form follows the grammar. If it
is none, the error names the first rule that its normal form breaks. -/

namespace AsnLexis

def hyphenPair : List Char := [hyphenMinus, hyphenMinus]

theorem hyphenPair_prefix_cons {c : Char} {rest : List Char} :
    hyphenPair <+: c :: rest ↔ c = hyphenMinus ∧ rest.head? = some hyphenMinus := by
  cases rest with
  | nil => simp [hyphenPair]
  | cons d rest => simp [hyphenPair, List.cons_prefix_cons, eq_comm]

theorem adjacentHyphen?_eq_none_iff {n : List Char} :
    adjacentHyphen? n = none ↔ ¬ hyphenPair <:+: n := by
  induction n with
  | nil => simp [adjacentHyphen?, hyphenPair]
  | cons c rest ih =>
      rw [adjacentHyphen?_cons, ih, List.infix_cons_iff, hyphenPair_prefix_cons, not_or]

theorem exists_of_adjacentHyphen? {n : List Char} {i : Nat} (found : adjacentHyphen? n = some i) :
    ∃ before after, n = before ++ hyphenPair ++ after ∧ i = before.length + 1 ∧
      ¬ hyphenPair <:+: before ++ [hyphenMinus] := by
  fun_induction adjacentHyphen? n generalizing i with
  | case1 a b rest both =>
      cases found
      obtain ⟨rfl, rfl⟩ : a = hyphenMinus ∧ b = hyphenMinus := by simpa using both
      exact ⟨[], rest, rfl, rfl, by decide⟩
  | case2 a b rest single ih =>
      obtain ⟨j, later, rfl⟩ := Option.map_eq_some_iff.1 found
      obtain ⟨before, after, split, rfl, first⟩ := ih later
      refine ⟨a :: before, after, congrArg (a :: ·) split, rfl, ?_⟩
      have next : (before ++ [hyphenMinus]).head? = some b := by
        rw [← List.head?_cons (a := b) (l := rest), split]
        cases before <;> rfl
      rw [List.cons_append, List.infix_cons_iff, hyphenPair_prefix_cons, next, not_or]
      exact ⟨by simpa using single, first⟩
  | case3 => cases found

theorem exists_splitOn (n : List Char) :
    ∃ others, n.splitOn hyphenMinus = n.takeWhile (· != hyphenMinus) :: others := by
  induction n with
  | nil => exact ⟨[], rfl⟩
  | cons c rest ih =>
      obtain ⟨others, split⟩ := ih
      by_cases hyphen : c = hyphenMinus
      · exact ⟨rest.splitOn hyphenMinus, by simp [List.splitOn_cons_eq_if_modifyHead, hyphen]⟩
      · exact ⟨others, by simp [List.splitOn_cons_eq_if_modifyHead, split, hyphen]⟩

theorem forall_mem_tail_splitOn {n : List Char} :
    (∀ part ∈ (n.splitOn hyphenMinus).tail, part ≠ []) ↔
      ¬ hyphenPair <:+: n ∧ n.getLast? ≠ some hyphenMinus := by
  induction n with
  | nil => simp [hyphenPair]
  | cons c rest ih =>
      obtain ⟨others, split⟩ := exists_splitOn rest
      rw [split, List.tail_cons] at ih
      rw [List.splitOn_cons_eq_if_modifyHead, split, List.infix_cons_iff, hyphenPair_prefix_cons]
      -- A hyphen in front makes a tail of all parts of the rest, its first part included.
      by_cases hyphen : c = hyphenMinus
      · rw [if_pos (by simpa using hyphen), List.tail_cons, List.forall_mem_cons, ih]
        cases rest with
        | nil => simp [hyphen]
        | cons d rest => simp [hyphen, List.getLast?_cons_cons, and_assoc]
      · rw [if_neg (by simpa using hyphen), List.modifyHead_cons, List.tail_cons, ih]
        cases rest with
        | nil => simp [hyphen]
        | cons d rest => simp [hyphen, List.getLast?_cons_cons]

theorem forall_mem_splitOn {c : Char} (other : c ≠ hyphenMinus) {rest : List Char} :
    (∀ part ∈ (c :: rest).splitOn hyphenMinus, part ≠ []) ↔
      ¬ hyphenPair <:+: c :: rest ∧ (c :: rest).getLast? ≠ some hyphenMinus := by
  obtain ⟨others, split⟩ := exists_splitOn (c :: rest)
  rw [← forall_mem_tail_splitOn, split, List.forall_mem_cons, List.tail_cons, and_iff_right]
  simp [other]

namespace Profile

variable {p : Profile} {n : List Char}

/-- A text follows the grammar: it begins with a start, all else continues it, and between the
hyphens no part is empty. -/
structure Conforms (p : Profile) (n : List Char) : Prop where
  start : ∃ c ∈ n.head?, p.isStart c
  more : ∀ c ∈ n.tail, p.isContinue c
  parts : ∀ part ∈ n.splitOn hyphenMinus, part ≠ []

/-- The first rule that a text breaks, and the index of the scalar that breaks it. -/
inductive Breaks (p : Profile) : List Char → Nat → IdentifierFlaw → Prop
  | start {c : Char} {rest : List Char} (other : ¬ p.isStart c) :
      Breaks p (c :: rest) 0 .badStart
  | more {c d : Char} {before after : List Char} (start : p.isStart c)
      (first : ∀ x ∈ before, p.isContinue x) (other : ¬ p.isContinue d) :
      Breaks p (c :: (before ++ d :: after)) (before.length + 1) (.notAllowed d)
  | adjacent {c : Char} {rest before after : List Char} (start : p.isStart c)
      (more : ∀ x ∈ rest, p.isContinue x) (pair : c :: rest = before ++ hyphenPair ++ after)
      (first : ¬ hyphenPair <:+: before ++ [hyphenMinus]) :
      Breaks p (c :: rest) (before.length + 1) .adjacentHyphens
  | trailing {c : Char} {rest before : List Char} (start : p.isStart c)
      (more : ∀ x ∈ rest, p.isContinue x) (single : ¬ hyphenPair <:+: c :: rest)
      (last : c :: rest = before ++ [hyphenMinus]) :
      Breaks p (c :: rest) before.length .trailingHyphen

theorem ne_hyphen_of_isStart {c : Char} (start : p.isStart c) : c ≠ hyphenMinus := by
  rintro rfl
  exact absurd (identifierStart_of_isStart start) (by decide)

theorem flaw?_eq_none_iff (some : n ≠ []) : p.flaw? n = none ↔ p.Conforms n := by
  obtain ⟨c, rest, rfl⟩ := List.exists_cons_of_ne_nil some
  rw [flaw?_cons_eq_none, adjacentHyphen?_eq_none_iff]
  constructor
  · rintro ⟨start, more, parts⟩
    exact ⟨⟨c, rfl, start⟩, more, (forall_mem_splitOn (ne_hyphen_of_isStart start)).2 parts⟩
  · rintro ⟨⟨d, first, start⟩, more, parts⟩
    cases first
    exact ⟨start, more, (forall_mem_splitOn (ne_hyphen_of_isStart start)).1 parts⟩

theorem breaks_of_flaw? (some : n ≠ []) {i : Nat} {flaw : IdentifierFlaw}
    (found : p.flaw? n = .some (i, flaw)) : p.Breaks n i flaw := by
  obtain ⟨c, rest, rfl⟩ := List.exists_cons_of_ne_nil some
  rw [flaw?] at found
  -- One case for each check, in their order; each later one knows that the earlier ones passed.
  by_cases start : p.isStart c
  · rw [if_neg (by simpa using start)] at found
    cases refused : rest.findIdx? (!p.isContinue ·) with
    | some j =>
        simp only [refused] at found
        cases found
        obtain ⟨inside, other, first⟩ := List.findIdx?_eq_some_iff_getElem.1 refused
        have split : rest = rest.take j ++ rest[j] :: rest.drop (j + 1) := by
          rw [← List.drop_eq_getElem_cons, List.take_append_drop]
        have front : ∀ x ∈ rest.take j, p.isContinue x := by
          intro x member
          obtain ⟨k, before, rfl⟩ := List.mem_take_iff_getElem.1 member
          simpa using first k (by omega)
        have breaks : p.Breaks (c :: (rest.take j ++ rest[j] :: rest.drop (j + 1)))
            ((rest.take j).length + 1) (.notAllowed rest[j]) :=
          .more start front (by simpa using other)
        rwa [← split, List.length_take_of_le (Nat.le_of_lt inside),
          ← List.getD_eq_getElem rest c inside] at breaks
    | none =>
        have more : ∀ x ∈ rest, p.isContinue x := by
          simpa [List.findIdx?_eq_none_iff] using refused
        simp only [refused] at found
        cases pair : adjacentHyphen? (c :: rest) with
        | some j =>
            simp only [pair] at found
            cases found
            obtain ⟨before, after, split, rfl, first⟩ := exists_of_adjacentHyphen? pair
            exact .adjacent start more split first
        | none =>
            simp only [pair] at found
            split_ifs at found with last
            cases found
            obtain ⟨before, split⟩ := List.getLast?_eq_some_iff.1 (beq_iff_eq.1 last)
            have length : rest.length = before.length := by
              simpa using congrArg List.length split
            rw [length]
            exact .trailing start more (adjacentHyphen?_eq_none_iff.1 pair) split
  · rw [if_pos (by simpa using start)] at found
    cases found
    exact .start start

theorem Breaks.lt {i : Nat} {flaw : IdentifierFlaw} (breaks : p.Breaks n i flaw) :
    i < n.length := by
  cases breaks with
  | start => exact Nat.succ_pos _
  | more => simp
  | adjacent _ _ split => simp [split, hyphenPair]
  | trailing _ _ _ split => simp [split]

structure Judges (p : Profile) (candidate : Candidate) (n : List Char) : Prop where
  present : candidate ≠ [] → n ≠ []
  accepts : (∃ id, p.classify candidate = .ok id) ↔ candidate ≠ [] ∧ p.Conforms n
  accepted : ∀ id, p.classify candidate = .ok id →
    id.text = Utf8.encode n ∧ (id.lead = .upper ↔ ∃ c ∈ n.head?, isUppercase c)
  empty : candidate = [] → p.classify candidate = .error ⟨0, [], IdentifierFlaw.empty.message⟩
  refused : ∀ e, candidate ≠ [] → p.classify candidate = .error e →
    ∃ i flaw c, p.Breaks n i flaw ∧ e.reason = flaw.message ∧ e.text = candidate.text ∧
      candidate[if n.length = candidate.length then i else 0]? = some (c, e.offset)

theorem leadCase_eq_upper_iff {n : List Char} :
    leadCase n = .upper ↔ ∃ c ∈ n.head?, isUppercase c := by
  cases n with
  | nil => simp [leadCase]
  | cons c rest => by_cases upper : isUppercase c <;> simp [leadCase, upper]

theorem check_eq_error {cs : List Char} (some : cs ≠ []) {i : Nat} {flaw : IdentifierFlaw}
    (refused : p.check cs = .error (i, flaw)) :
    ∃ j, p.flaw? (p.form.normalize cs) = .some (j, flaw) ∧
      i = if (p.form.normalize cs).length = cs.length then j else 0 := by
  rw [check, if_neg (by simpa using some)] at refused
  dsimp only at refused
  cases found : p.flaw? (p.form.normalize cs) with
  | none =>
      rw [found] at refused
      cases refused
  | some broken =>
      rw [found] at refused
      cases refused
      exact ⟨_, rfl, rfl⟩

theorem exists_breaks_of_classify {candidate : Candidate} {e : IdentifierError}
    (present : candidate ≠ [] → p.form.normalize (candidate.map Prod.fst) ≠ [])
    (some : candidate ≠ []) (refused : p.classify candidate = .error e) :
    ∃ i flaw c, p.Breaks (p.form.normalize (candidate.map Prod.fst)) i flaw ∧
      e.reason = flaw.message ∧ e.text = candidate.text ∧
      candidate[if (p.form.normalize (candidate.map Prod.fst)).length = candidate.length
        then i else 0]? = .some (c, e.offset) := by
  rw [classify] at refused
  cases checked : p.check (candidate.map Prod.fst) with
  | ok id =>
      rw [checked] at refused
      cases refused
  | error found =>
      rw [checked] at refused
      cases refused
      obtain ⟨i, broken, place⟩ := check_eq_error (by simpa using some) checked
      have breaks := breaks_of_flaw? (present some) broken
      rw [List.length_map] at place
      have inside : found.1 < candidate.length := by
        rw [place]
        split_ifs with same
        · exact same ▸ breaks.lt
        · exact List.length_pos_iff.2 some
      refine ⟨i, found.2, candidate[found.1].1, breaks, rfl, rfl, ?_⟩
      rw [← place, List.getElem?_eq_getElem inside]
      rfl

theorem judges_of_present {candidate : Candidate}
    (present : candidate ≠ [] → p.form.normalize (candidate.map Prod.fst) ≠ []) :
    p.Judges candidate (p.form.normalize (candidate.map Prod.fst)) where
  present := present
  accepts := by
    simp only [classify_eq_ok_iff, check_eq_ok_iff, exists_and_left, exists_eq, and_true, Ne,
      List.map_eq_nil_iff]
    refine and_congr_right fun some => ?_
    exact flaw?_eq_none_iff (present some)
  accepted id taken := by
    obtain ⟨_, _, rfl⟩ := check_eq_ok_iff.1 (classify_eq_ok_iff.1 taken)
    exact ⟨rfl, leadCase_eq_upper_iff⟩
  empty none := by
    subst none
    rfl
  refused _ some refused := exists_breaks_of_classify present some refused

/-- The two profiles admit exactly the identifier grammar: a candidate is accepted exactly when it
is not empty and its normal form follows the grammar, and then its text is the normal form and its
case that of the form's first scalar. A candidate that is refused is refused for the first rule its
form breaks, with its text as written, and at the scalar with the same index if the form has as
many scalars as the candidate, else at the first scalar. -/
theorem identifiers_follow_grammar (strict : Bool) (candidate : Candidate) :
    let p := ofStrict strict
    p.Judges candidate (p.form.normalize (candidate.map Prod.fst)) := by
  intro p
  apply judges_of_present
  intro some
  exact normalize_ne_nil strict (by simpa using some)

end Profile

end AsnLexis
