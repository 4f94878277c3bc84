import AsnLexis.Proofs.Identifier
import AsnLexis.Proofs.Run
import Mathlib

/-! A text is cut the same under the strict profile as under the full one. Only words can tell the
two apart: the strict profile takes those that are ASCII in canonical form, and the lexemes of the
others are unknown to it. -/

namespace AsnLexis

theorem isAscii_of_isKeyword {text : Bytes} (reserved : isKeyword text) : isAscii text := by
  have listed : keywordTexts.all isAscii := by decide +kernel
  exact List.all_eq_true.1 listed text (by simpa [isKeyword] using reserved)

namespace Profile

def strict (p : Profile) : Profile := { p with asciiOnly := true }

theorem isStart_strict (p : Profile) (c : Char) :
    p.strict.isStart c ↔ p.isStart c ∧ c.toNat < 0x80 := by
  by_cases low : c.toNat < 0x80 <;> simp [isStart, strict, low]

theorem isContinue_strict (p : Profile) (c : Char) :
    p.strict.isContinue c ↔ p.isContinue c ∧ c.toNat < 0x80 := by
  by_cases low : c.toNat < 0x80 <;> simp [isContinue, strict, low]

/-- Both profiles take the same scalars for the first of a word: one beyond ASCII that may begin an
identifier may go on with it too. -/
theorem begins_strict (p : Profile) (c : Char) :
    (p.strict.isStart c || (0x80 ≤ c.toNat && isIdentifierContinue c))
      = (p.isStart c || (0x80 ≤ c.toNat && isIdentifierContinue c)) := by
  rw [Bool.eq_iff_iff]
  simp only [Bool.or_eq_true, Bool.and_eq_true, decide_eq_true_eq, isStart_strict]
  constructor
  · rintro (⟨start, _⟩ | high)
    · exact .inl start
    · exact .inr high
  · rintro (start | high)
    · by_cases low : c.toNat < 0x80
      · exact .inl ⟨start, low⟩
      · exact .inr ⟨Nat.not_lt.1 low,
          isIdentifierContinue_of_start (identifierStart_of_isStart start)⟩
    · exact .inr high

theorem flaw?_strict_eq_none {p : Profile} {cs : List Char} :
    p.strict.flaw? cs = none ↔ p.flaw? cs = none ∧ ∀ c ∈ cs, c.toNat < 0x80 := by
  cases cs with
  | nil => simp [flaw?]
  | cons c rest =>
      simp only [flaw?_cons_eq_none, isStart_strict, isContinue_strict, List.forall_mem_cons]
      constructor
      · rintro ⟨⟨start, low⟩, more, hyphens⟩
        exact ⟨⟨start, fun d member => (more d member).1, hyphens⟩, low,
          fun d member => (more d member).2⟩
      · rintro ⟨⟨start, more, hyphens⟩, low, lows⟩
        exact ⟨⟨start, low⟩, fun d member => ⟨more d member, lows d member⟩, hyphens⟩

theorem check_strict_eq_ok {p : Profile} {candidate : List Char} {id : Identifier} :
    p.strict.check candidate = .ok id ↔ p.check candidate = .ok id ∧ isAscii id.text := by
  have form : p.strict.form = p.form := rfl
  rw [check_eq_ok_iff, check_eq_ok_iff, flaw?_strict_eq_none, form]
  constructor
  · rintro ⟨some, ⟨sound, low⟩, rfl⟩
    exact ⟨⟨some, sound, rfl⟩, isAscii_encode.2 low⟩
  · rintro ⟨⟨some, sound, rfl⟩, ascii⟩
    exact ⟨some, ⟨sound, isAscii_encode.1 ascii⟩, rfl⟩

end Profile

namespace Lexeme

inductive Reading.Tightens : Reading → Reading → Prop
  | same {reading : Reading} (word : ∀ id, reading = .word id → isAscii id.text)
      (plain : ∀ kind, reading = .plain kind → kind ≠ .identifier ∧ kind ≠ .keyword) :
      Tightens reading reading
  | lost {i : Nat} {flaw : IdentifierFlaw} {id : Identifier} (wide : ¬ isAscii id.text) :
      Tightens (.badWord i flaw) (.word id)
  | flawed {i j : Nat} {flaw flaw' : IdentifierFlaw} :
      Tightens (.badWord i flaw) (.badWord j flaw')

theorem Reading.Tightens.fatal_iff {a b : Reading} (tightens : a.Tightens b) (fault : Fault) :
    a = .fatal fault ↔ b = .fatal fault := by
  cases tightens <;> simp

variable (p : Profile) (c : Char) (rest : List Char)

theorem read_strict_eq :
    read p.strict c rest = read p c rest ∨
      (read p.strict c rest = readWord p.strict c rest ∧ read p c rest = readWord p c rest) := by
  unfold read
  rw [p.begins_strict c]
  split_ifs
  all_goals simp

theorem readWord_strict : (readWord p.strict c rest).more = (readWord p c rest).more ∧
    (readWord p.strict c rest).reading.Tightens (readWord p c rest).reading := by
  unfold readWord
  dsimp only
  cases checked : p.strict.check (c :: rest.take (word rest)) with
  | ok id =>
      obtain ⟨full, ascii⟩ := Profile.check_strict_eq_ok.1 checked
      rw [full]
      refine ⟨rfl, .same ?_ (by simp)⟩
      rintro _ ⟨⟩
      exact ascii
  | error found =>
      obtain ⟨i, flaw⟩ := found
      cases full : p.check (c :: rest.take (word rest)) with
      | ok id =>
          refine ⟨rfl, .lost ?_⟩
          intro ascii
          rw [Profile.check_strict_eq_ok.2 ⟨full, ascii⟩] at checked
          cases checked
      | error found => exact ⟨rfl, .flawed⟩

theorem read_strict : (read p.strict c rest).more = (read p c rest).more ∧
    (read p.strict c rest).reading.Tightens (read p c rest).reading := by
  rcases read_strict_eq p c rest with same | ⟨strict, full⟩
  · rw [← same]
    refine ⟨rfl, .same ?_ ?_⟩
    · intro id found
      have reads := reads_read p.strict c rest
      generalize read p.strict c rest = front at reads found
      cases reads with
      | word _ checked =>
          cases found
          exact (Profile.check_strict_eq_ok.1 checked).2
      | _ => cases found
    · intro kind plain
      have others := kind_of_plain plain
      simp only [List.mem_cons, not_or] at others
      exact ⟨others.2.2.2.1, others.2.2.2.2.1⟩
  · rw [strict, full]
    exact readWord_strict p c rest

end Lexeme

def Segment.Tightens (s t : Segment) : Prop :=
  ∃ reading, s = { t with reading := reading } ∧ reading.Tightens t.reading

theorem Segment.Tightens.literalCount_eq {s t : Segment} (tightens : s.Tightens t) :
    s.literalCount = t.literalCount := by
  obtain ⟨reading, rfl, reads⟩ := tightens
  unfold literalCount
  generalize t.reading = full at reads
  cases reads <;> rfl

theorem Segmented.tightened {p : Profile} {cs : List Char} {segments : List Segment}
    {ending : Ending} (cut : Segmented p cs segments ending) :
    ∃ segments', Segmented p.strict cs segments' ending ∧
      List.Forall₂ Segment.Tightens segments' segments := by
  -- A lexeme has one length under both profiles, so they cut the text at the same places.
  induction cut with
  | finished trivia => exact ⟨[], .finished trivia, .nil⟩
  | unclosed trivia => exact ⟨[], .unclosed trivia, .nil⟩
  | @fatal gap tail left head fault trivia read =>
      obtain ⟨more, reads⟩ := Lexeme.read_strict p head (tail ++ left)
      rw [read] at more reads
      have fatal := (reads.fatal_iff fault).2 rfl
      exact ⟨[], .fatal trivia (congrArg₂ Lexeme.Front.mk more fatal), .nil⟩
  | @segment gap tail left head reading segments ending trivia read mild _ ih =>
      obtain ⟨segments', cut', alike⟩ := ih
      obtain ⟨more, reads⟩ := Lexeme.read_strict p head (tail ++ left)
      rw [read] at more reads
      refine ⟨⟨gap, head, tail, (Lexeme.read p.strict head (tail ++ left)).reading⟩ :: segments',
        .segment trivia (congrArg₂ Lexeme.Front.mk more rfl) ?_ cut', .cons ⟨_, rfl, reads⟩ alike⟩
      intro fault fatal
      exact mild fault ((reads.fatal_iff fault).1 fatal)

theorem extent_tightens {segments segments' : List Segment}
    (alike : List.Forall₂ Segment.Tightens segments' segments) :
    extent segments' = extent segments := by
  induction alike with
  | nil => rfl
  | cons first _ ih =>
      obtain ⟨reading, rfl, _⟩ := first
      rw [extent_cons, extent_cons, ih]
      rfl

def Placed.Tightens (x y : Placed) : Prop :=
  ∃ segment, x = { y with segment := segment } ∧ segment.Tightens y.segment

theorem layout_tightens {segments segments' : List Segment}
    (alike : List.Forall₂ Segment.Tightens segments' segments) (i k : Nat) :
    List.Forall₂ Placed.Tightens (layout i k segments') (layout i k segments) := by
  induction alike generalizing i k with
  | nil => exact .nil
  | @cons s t _ _ first _ ih =>
      rw [layout, layout, first.literalCount_eq]
      obtain ⟨reading, rfl, reads⟩ := first
      exact .cons ⟨_, rfl, reading, rfl, reads⟩ (ih _ _)

/-- A token `t` of the strict profile where the full one has the token `u`: the words are those of
the full profile that are ASCII, an identifier that is not is unknown, and all else is the same. -/
structure Token.Tightens (t u : Token) : Prop where
  span : t.span = u.span
  word : t.IsWord ↔ u.IsWord ∧ isAscii u.text
  lost : u.kind = .identifier → ¬ isAscii u.text → t.kind = .unknown
  kept : ¬ (u.kind = .identifier ∧ ¬ isAscii u.text) → t = u

theorem Token.Tightens.refl {t : Token} (ascii : t.IsWord → isAscii t.text) : t.Tightens t where
  span := rfl
  word := ⟨fun word => ⟨word, ascii word⟩, And.left⟩
  lost identifier wide := absurd (ascii (.inl identifier)) wide
  kept _ := rfl

theorem Placed.Tightens.token {x y : Placed} (tightens : x.Tightens y) (chars : List Char) :
    (x.token chars).Tightens (y.token chars) := by
  obtain ⟨_, rfl, reading, rfl, reads⟩ := tightens
  obtain ⟨⟨gap, head, tail, full⟩, start, literals⟩ := y
  dsimp only at reads ⊢
  cases reads with
  | same word plain =>
      apply Token.Tightens.refl
      intro isWord
      cases reading with
      | word id => exact word id rfl
      | plain kind =>
          obtain ⟨noIdentifier, noKeyword⟩ := plain kind rfl
          rcases isWord with found | found
          · exact absurd found noIdentifier
          · exact absurd found noKeyword
      | _ => rcases isWord with found | found <;> cases found
  | @lost i flaw id wide =>
      have noKeyword : isKeyword id.text = false := by
        by_contra reserved
        exact wide (isAscii_of_isKeyword (by simpa using reserved))
      refine ⟨rfl, ⟨?_, ?_⟩, fun _ _ => rfl, ?_⟩
      · rintro (found | found) <;> cases found
      · rintro ⟨_, ascii⟩
        exact absurd ascii wide
      · intro kept
        exact absurd ⟨by simp [Placed.token, noKeyword], wide⟩ kept
  | flawed =>
      apply Token.Tightens.refl
      rintro (found | found) <;> cases found

theorem Placed.Tightens.literal?_eq {x y : Placed} (tightens : x.Tightens y) (chars : List Char) :
    x.literal? chars = y.literal? chars := by
  obtain ⟨_, rfl, reading, rfl, reads⟩ := tightens
  obtain ⟨⟨gap, head, tail, full⟩, start, literals⟩ := y
  dsimp only at reads
  cases reads <;> rfl

theorem Ending.token?_tightens (ending : Ending) (chars : List Char) (i : Nat) :
    List.Forall₂ Token.Tightens (ending.scanned chars i).token?.toList
      (ending.scanned chars i).token?.toList := by
  cases ending with
  | finished gap =>
      refine .cons (.refl ?_) .nil
      rintro (found | found) <;> cases found
  | fatal => exact .nil

structure Tokenized.Tightens (r s : Tokenized) : Prop where
  tokens : List.Forall₂ Token.Tightens r.tokens s.tokens
  literals : r.literals = s.literals
  fatal : r.fatal = s.fatal

theorem Outlined.tightens {r s : Tokenized} {chars : List Char} {segments segments' : List Segment}
    {ending : Ending} (strict : Outlined r chars segments' ending)
    (full : Outlined s chars segments ending)
    (alike : List.Forall₂ Segment.Tightens segments' segments) : r.Tightens s := by
  have placed := layout_tightens alike 0 0
  have extents := extent_tightens alike
  constructor
  · rw [strict.tokens, full.tokens, extents]
    refine List.rel_append ?_ (ending.token?_tightens _ _)
    rw [List.forall₂_map_left_iff, List.forall₂_map_right_iff]
    exact placed.imp (fun _ _ tightens => tightens.token chars)
  · have entries : r.literals.entries.toList = s.literals.entries.toList := by
      rw [strict.literals, full.literals]
      generalize layout 0 0 segments' = xs, layout 0 0 segments = ys at placed
      induction placed with
      | nil => rfl
      | cons first _ ih => rw [List.filterMap_cons, List.filterMap_cons, first.literal?_eq chars, ih]
    exact congrArg LiteralTable.mk (Array.toList_inj.1 entries)
  · rw [strict.fatal, full.fatal, extents]

/-- The strict profile finds the tokens of the full one in the same places, the same literals and
the same fatal error or none. Its identifiers and keywords are those of the full profile that are
ASCII in canonical form, and they are the same tokens; the other identifiers are unknown. -/
theorem strict_profile_tightens (name file input : Bytes) :
    (tokenize name ⟨file, .ascii⟩ input).Tightens (tokenize name ⟨file, .unicode⟩ input) := by
  cases decoded : Source.read input with
  | error e =>
      rw [tokenize, tokenize, decoded]
      exact ⟨.nil, rfl, rfl⟩
  | ok source =>
      obtain ⟨segments, ending, cut⟩ := exists_segmented .unicode source.chars
      obtain ⟨segments', cut', alike⟩ := cut.tightened
      have full : Outlined (tokenize name ⟨file, .unicode⟩ input) source.chars segments ending :=
        Segmented.outlined name decoded cut
      have strict : Outlined (tokenize name ⟨file, .ascii⟩ input) source.chars segments' ending :=
        Segmented.outlined name decoded cut'
      exact strict.tightens full alike

end AsnLexis
