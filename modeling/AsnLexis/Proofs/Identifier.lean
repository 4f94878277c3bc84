import AsnLexis.Candidate
import AsnLexis.Proofs.Utf8
import Mathlib

/-! What a profile accepts: a start, scalars that continue it, no two hyphens in a row, and no hyphen
at the end. -/

namespace AsnLexis

theorem of_ascii_table (q : Char → Bool) {c : Char} (low : c.toNat < 0x80)
    (table : (List.range 0x80).all (fun n => q (Char.ofNat n))) : q c := by
  have entry := List.all_eq_true.1 table c.toNat (List.mem_range.2 low)
  rwa [Char.ofNat_toNat] at entry

theorem isAscii_encodeChar (c : Char) : isAscii (Utf8.encodeChar c) = decide (c.toNat < 0x80) := by
  have first {n : Nat} (low : 0x80 ≤ n) (high : n < 256) (rest : Bytes) :
      isAscii (UInt8.ofNat n :: rest) = false := by
    have large := Utf8.not_ascii low high
    simp [isAscii, large]
  have valid := Utf8.isValidChar_toNat c
  rw [Utf8.encodeChar, Utf8.encodeCode]
  split_ifs with one two three
  · have small : UInt8.ofNat c.toNat < 0x80 := by
      rw [UInt8.lt_iff_toNat_lt, Utf8.toNat_ofNat (by omega)]
      exact one
    simp [isAscii, small, one]
  · rw [first (by omega) (by omega), decide_eq_false one]
  · rw [first (by omega) (by omega), decide_eq_false one]
  · rw [first (by omega) (by omega), decide_eq_false one]

theorem isAscii_encode {cs : List Char} :
    isAscii (Utf8.encode cs) ↔ ∀ c ∈ cs, c.toNat < 0x80 := by
  induction cs with
  | nil => simp [isAscii]
  | cons c cs ih =>
      have both : isAscii (Utf8.encode (c :: cs))
          = (isAscii (Utf8.encodeChar c) && isAscii (Utf8.encode cs)) := List.all_append
      rw [both, Bool.and_eq_true, ih, isAscii_encodeChar]
      simp

theorem isIdentifierContinue_of_start {c : Char} (start : isIdentifierStart c) :
    isIdentifierContinue c := by
  simp only [isIdentifierStart, isXidStart, Bool.or_eq_true, beq_iff_eq] at start
  simp only [isIdentifierContinue, isXidContinue, Bool.or_eq_true, beq_iff_eq]
  rcases start with (rfl | rfl) | start
  · exact .inl (.inl rfl)
  · exact .inr (by decide)
  · refine .inr ?_
    split at start
    next low =>
      rw [if_pos low]
      simp [start]
    next high =>
      rw [if_neg high]
      simp [start]

theorem Candidate.scalars_ofPieces (offset : Nat) (pieces : List Piece) :
    (ofPieces offset pieces).map Prod.fst = pieces.map Piece.shown := by
  induction pieces generalizing offset with
  | nil => rfl
  | cons piece pieces ih => rw [ofPieces, List.map_cons, List.map_cons, ih]

theorem Candidate.scalars_ofText (text : Bytes) :
    (ofText text).map Prod.fst = Utf8.decodeLossy text :=
  scalars_ofPieces 0 (Utf8.pieces text)

theorem adjacentHyphen?_cons (c : Char) (rest : List Char) :
    adjacentHyphen? (c :: rest) = none ↔
      ¬ (c = hyphenMinus ∧ rest.head? = some hyphenMinus) ∧ adjacentHyphen? rest = none := by
  cases rest with
  | nil => simp [adjacentHyphen?]
  | cons d rest =>
      rw [adjacentHyphen?]
      by_cases both : c = hyphenMinus ∧ d = hyphenMinus
      · simp [both]
      · have single : (c == hyphenMinus && d == hyphenMinus) = false := by simpa using both
        simp [both, single]

namespace Profile

variable {p : Profile}

theorem identifierStart_of_isStart {c : Char} (start : p.isStart c) : isIdentifierStart c :=
  (Bool.and_eq_true_iff.1 start).2

theorem identifierContinue_of_isContinue {c : Char} (more : p.isContinue c) :
    isIdentifierContinue c :=
  (Bool.and_eq_true_iff.1 more).2

theorem flaw?_cons_eq_none {c : Char} {rest : List Char} :
    p.flaw? (c :: rest) = none ↔ p.isStart c ∧ (∀ d ∈ rest, p.isContinue d) ∧
      adjacentHyphen? (c :: rest) = none ∧ (c :: rest).getLast? ≠ some hyphenMinus := by
  have continues : rest.findIdx? (!p.isContinue ·) = none ↔ ∀ d ∈ rest, p.isContinue d := by
    simp [List.findIdx?_eq_none_iff]
  rw [flaw?, ← continues]
  by_cases start : p.isStart c
  · rw [if_neg (by simp [start])]
    cases rest.findIdx? (!p.isContinue ·) with
    | some i => simp
    | none =>
        cases adjacentHyphen? (c :: rest) with
        | some i => simp
        | none => by_cases last : (c :: rest).getLast? = some hyphenMinus <;> simp [start, last]
  · simp [start]

theorem check_eq_ok_iff {candidate : List Char} {id : Identifier} :
    p.check candidate = .ok id ↔ candidate ≠ [] ∧ p.flaw? (p.form.normalize candidate) = none ∧
      id = ⟨Utf8.encode (p.form.normalize candidate), leadCase (p.form.normalize candidate)⟩ := by
  rw [check]
  cases candidate with
  | nil => simp
  | cons c rest =>
      simp only [List.isEmpty_cons, Bool.false_eq_true, if_false]
      cases p.flaw? (p.form.normalize (c :: rest)) with
      | some found => simp
      | none => simp [eq_comm]

theorem classify_eq_ok_iff {candidate : Candidate} {id : Identifier} :
    p.classify candidate = .ok id ↔ p.check (candidate.map Prod.fst) = .ok id := by
  rw [classify]
  cases p.check (candidate.map Prod.fst) with
  | ok other => simp
  | error found => simp

end Profile

end AsnLexis
