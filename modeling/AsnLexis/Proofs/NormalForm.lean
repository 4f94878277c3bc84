import AsnLexis.Proofs.Identifier
import Mathlib

/-! Canonical forms. ASCII is canonical as it stands, and what a form makes of a text is canonical
wherever the form is stable. -/

namespace AsnLexis

theorem plainHyphen_of_ascii {c : Char} (low : c.toNat < 0x80) : plainHyphen c = c := by
  unfold plainHyphen
  split
  next hyphen =>
    simp only [isHyphen, Bool.or_eq_true, beq_iff_eq] at hyphen
    rcases hyphen with (rfl | rfl) | rfl
    · rfl
    · exact absurd low (by decide)
    · exact absurd low (by decide)
  next => rfl

theorem plainHyphen_plainHyphen (c : Char) : plainHyphen (plainHyphen c) = plainHyphen c := by
  by_cases hyphen : isHyphen c
  · rw [plainHyphen, plainHyphen, if_pos hyphen]
    rfl
  · simp [plainHyphen, hyphen]

namespace NormalForm

def KeepsAscii (form : NormalForm) : Prop :=
  ∀ cs : List Char, (∀ c ∈ cs, c.toNat < 0x80) → form cs = cs

/-- The form of a text is its own form, and is so with plain hyphens too. -/
structure StableAt (form : NormalForm) (cs : List Char) : Prop where
  idempotent : form (form cs) = form cs
  hyphens : form ((form cs).map plainHyphen) = (form (form cs)).map plainHyphen

variable {form : NormalForm} {cs : List Char}

theorem normalize_of_ascii (keeps : form.KeepsAscii) (ascii : ∀ c ∈ cs, c.toNat < 0x80) :
    form.normalize cs = cs := by
  rw [normalize, keeps cs ascii]
  exact (List.map_congr_left (fun c member => plainHyphen_of_ascii (ascii c member))).trans
    (List.map_id cs)

theorem StableAt.normalize_normalize (stable : form.StableAt cs) :
    form.normalize (form.normalize cs) = form.normalize cs := by
  have twice : plainHyphen ∘ plainHyphen = plainHyphen := funext plainHyphen_plainHyphen
  rw [normalize, normalize, stable.hyphens, stable.idempotent, List.map_map, twice]

theorem canonical_encode (keeps : form.KeepsAscii) (cs : List Char) :
    form.canonical (Utf8.encode cs) = Utf8.encode (form.normalize cs) := by
  rw [canonical]
  split
  next ascii => rw [normalize_of_ascii keeps (isAscii_encode.1 ascii)]
  next => rw [Utf8.decodeLossy_encode]

end NormalForm

namespace Unicode

theorem ascii_alone {c : Char} (low : c.toNat < 0x80) :
    leadCount c = 0 ∧ trailCount c = 0 ∧ decompose c = [c] := by
  have entry := of_ascii_table
    (fun c => leadCount c == 0 && trailCount c == 0 && decompose c == [c]) low (by decide +kernel)
  simpa [and_assoc] using entry

theorem clustersFrom_alone {run : Nat} (short : run ≤ longestRun) (cluster : List Char)
    {cs : List Char} (alone : ∀ c ∈ cs, leadCount c = 0 ∧ trailCount c ≤ longestRun) :
    clustersFrom run cluster cs = cluster :: cs.map ([·]) := by
  induction cs generalizing run cluster with
  | nil => rfl
  | cons c cs ih =>
      obtain ⟨⟨lead, trail⟩, later⟩ := List.forall_mem_cons.1 alone
      rw [clustersFrom]
      simp only [lead, Nat.add_zero, Nat.not_lt.2 short, ih trail [c] later]
      rfl

theorem spellAfter_ascii {c : Char} (low : c.toNat < 0x80) : spellAfter [] [c] = [[c]] := by
  simp [spellAfter, (ascii_alone low).2.2, splitSpelling]

theorem nfc_keepsAscii : NormalForm.KeepsAscii nfc := by
  intro cs ascii
  have cut : clusters cs = [] :: cs.map ([·]) := by
    apply clustersFrom_alone (Nat.zero_le longestRun)
    intro c member
    obtain ⟨lead, trail, _⟩ := ascii_alone (ascii c member)
    exact ⟨lead, trail ▸ Nat.zero_le longestRun⟩
  rw [nfc, cut, List.flatMap_cons, List.flatMap_append]
  clear cut
  change ((cs.map ([·])).flatMap (spellAfter [])).flatMap (fun part => compose (orderMarks part)) = cs
  induction cs with
  | nil => rfl
  | cons c cs ih =>
      obtain ⟨low, later⟩ := List.forall_mem_cons.1 ascii
      rw [List.map_cons, List.flatMap_cons, List.flatMap_append, ih later, spellAfter_ascii low]
      rfl

-- Not every text is stable. U+200FC is composed like U+00FC, so that it takes the grave accent first
-- and the dot below only when the result is normalized again.
example : let form := nfc [Char.ofNat 0x200FC, '\u0323', '\u0300']
    form = ['\u01DC', '\u0323'] ∧ nfc form = ['\u1EE5', '\u0308', '\u0300'] := by
  decide +kernel

/-- An ASCII scalar that is the first of no composite. -/
structure IsLone (c : Char) : Prop where
  low : c.toNat < 0x80
  single : ∀ d, composite? c d = none

theorem isLone_of_table {c : Char} (low : c.toNat < 0x80)
    (plain : compositions.find? c.toNat = none)
    (image : compositions.find? (c.toNat + 0x10000) = none) : IsLone c := by
  refine ⟨low, fun d => ?_⟩
  have same : c.toNat % 0x10000 = c.toNat := Nat.mod_eq_of_lt (by omega)
  simp [composite?, same, plain, image]

theorem clustersFrom_cons (c : Char) (run : Nat) (cluster cs : List Char) :
    ∃ first others, clustersFrom run (c :: cluster) cs = (c :: first) :: others := by
  induction cs generalizing run cluster with
  | nil => exact ⟨cluster, [], rfl⟩
  | cons d cs ih =>
      rw [clustersFrom]
      split_ifs
      · exact ⟨cluster ++ [graphemeJoiner], _, rfl⟩
      · exact ⟨cluster, _, rfl⟩
      · exact ih _ (cluster ++ [d])

theorem spellAfter_cons (c : Char) (opened cs : List Char) :
    ∃ first others, spellAfter (c :: opened) cs = (c :: first) :: others := by
  induction cs generalizing opened with
  | nil => exact ⟨opened, [], rfl⟩
  | cons d cs ih =>
      rw [spellAfter]
      split
      next => exact ih opened
      next part parts _ =>
        cases parts with
        | nil => exact ih (opened ++ part)
        | cons next parts => exact ⟨opened ++ part, _, rfl⟩

namespace Composing

variable {c : Char} {w : Composing}

theorem toList_rebase (w : Composing) : w.rebase.toList = w.toList := by
  rw [rebase]
  split_ifs
  · have some : w.toList ≠ [] := by simp [toList]
    have last : w.last = w.toList.getLast some := by
      simp only [toList, List.getLast_append_of_ne_nil _ (List.cons_ne_nil _ _), last,
        List.getLast_eq_getLastD]
    rw [last]
    exact List.dropLast_append_getLast some
  · rfl

theorem head?_rebase (first : w.toList.head? = some c) : w.rebase.toList.head? = some c :=
  (congrArg List.head? w.toList_rebase).trans first

theorem head?_hold (first : w.toList.head? = some c) (d : Char) :
    (w.hold d).toList.head? = some c := by
  obtain ⟨settled, base, held⟩ := w
  cases settled <;> exact first

theorem head?_join {combine : Char → Char → Option Char} (single : ∀ d, combine c d = none)
    (first : w.toList.head? = some c) (d : Char) : (w.join combine d).toList.head? = some c := by
  rw [join]
  split
  next e found =>
    split_ifs at found
    obtain ⟨settled, base, held⟩ := w
    cases settled with
    | nil =>
        cases first
        rw [single] at found
        cases found
    | cons b settled => exact first
  next => exact head?_hold first d

theorem head?_syllables (lone : IsLone c) (first : w.toList.head? = some c) (cs : List Char) :
    (w.syllables cs).toList.head? = some c := by
  have single (d : Char) : (syllable? c.toNat d.toNat).map Char.ofNat = none := by
    have low := lone.low
    have noLead : ¬ isLead c.toNat := by
      intro lead
      have bound : 0x1100 ≤ c.toNat := of_decide_eq_true (Bool.and_eq_true_iff.1 lead).1
      omega
    have noSyllable : ¬ isSyllable c.toNat := by
      intro syllable
      have bound : 0xAC00 ≤ c.toNat := of_decide_eq_true (Bool.and_eq_true_iff.1 syllable).1
      omega
    simp [syllable?, noLead, noSyllable]
  induction cs generalizing w with
  | nil => exact first
  | cons d cs ih => exact ih (head?_join single (head?_rebase first) d)

theorem head?_pairs (lone : IsLone c) (first : w.toList.head? = some c) (cs : List Char) :
    (w.pairs cs).toList.head? = some c := by
  induction cs generalizing w with
  | nil => exact first
  | cons d cs ih =>
      rw [pairs]
      split_ifs
      · exact head?_syllables lone first (d :: cs)
      · exact ih (head?_join lone.single (head?_rebase first) d)
      · exact ih (head?_hold first d)

end Composing

theorem orderMarks_cons {c : Char} (starter : combiningClass c = 0) (cs : List Char) :
    orderMarks (c :: cs) = c :: orderMarks cs := by
  rw [orderMarks]
  cases orderMarks cs with
  | nil => rfl
  | cons d rest => simp [insertMark, starter]

theorem head?_nfc {c : Char} (lone : IsLone c) (cs : List Char) :
    (nfc (c :: cs)).head? = some c := by
  obtain ⟨lead, trail, spelled⟩ := ascii_alone lone.low
  have starter : combiningClass c = 0 := by
    have entry := of_ascii_table (fun c => combiningClass c == 0) lone.low (by decide +kernel)
    simpa using entry
  have cut : clusters (c :: cs) = [] :: clustersFrom 0 [c] cs := by
    rw [clusters, clustersFrom]
    simp only [lead, trail]
    rfl
  obtain ⟨cluster, others, first⟩ := clustersFrom_cons c 0 [] cs
  obtain ⟨part, parts, spelling⟩ := spellAfter_cons c [] cluster
  have begins : spellAfter [] (c :: cluster) = (c :: part) :: parts := by
    rw [spellAfter, spelled]
    exact spelling
  rw [nfc, cut, first, List.flatMap_cons, List.flatMap_cons, begins]
  have front := Composing.head?_pairs (w := ⟨[], c, []⟩) lone rfl (orderMarks part)
  change ([] ++ (compose (orderMarks (c :: part)) ++ _)).head? = some c
  rw [orderMarks_cons starter, List.nil_append, compose, List.head?_append, front]
  rfl

end Unicode

end AsnLexis
