import AsnLexis.Proofs.NormalForm
import Mathlib

/-! Laws of normalization form C. The form of a text with a scalar in it has a scalar in it, and
which hyphens a text is written with makes no difference to its form, the hyphens apart. -/

namespace AsnLexis

def hyphenNumbers : List Nat := [0x2D, 0x2010, 0x2011]

theorem isHyphen_iff {c : Char} : isHyphen c ↔ c.toNat ∈ hyphenNumbers := by
  simp only [isHyphen, hyphenMinus, Bool.or_eq_true, beq_iff_eq, ← Char.toNat_inj, hyphenNumbers,
    List.mem_cons, List.not_mem_nil, or_false, or_assoc]
  rfl

theorem not_isHyphen_ofNat {n : Nat} (other : n ∉ hyphenNumbers) : ¬ isHyphen (Char.ofNat n) := by
  rw [isHyphen_iff, Char.toNat_ofNat]
  split_ifs
  · exact other
  · decide

theorem plainHyphen_of_not {c : Char} (other : ¬ isHyphen c) : plainHyphen c = c :=
  if_neg other

theorem isHyphen_plainHyphen (c : Char) : isHyphen (plainHyphen c) = isHyphen c := by
  rw [plainHyphen]
  split_ifs with hyphen
  · exact hyphen.symm
  · rfl

theorem apply_plainHyphen {α : Type} {g : Char → α} {a : α} (same : ∀ c, isHyphen c → g c = a)
    (c : Char) : g (plainHyphen c) = g c := by
  by_cases hyphen : isHyphen c
  · rw [same c hyphen, same _ (isHyphen_plainHyphen c ▸ hyphen)]
  · rw [plainHyphen_of_not hyphen]

theorem map_plainHyphen_of_not {cs : List Char} (other : ∀ c ∈ cs, ¬ isHyphen c) :
    cs.map plainHyphen = cs :=
  (List.map_congr_left fun c member => plainHyphen_of_not (other c member)).trans (List.map_id cs)

theorem not_mem_hyphenNumbers {n : Nat} (low : 0x1100 ≤ n) (apart : n < 0x1200 ∨ 0xAC00 ≤ n) :
    n ∉ hyphenNumbers := by
  simp only [hyphenNumbers, List.mem_cons, List.not_mem_nil, or_false]
  omega

namespace NormalForm

def IgnoresHyphens (form : NormalForm) : Prop :=
  ∀ cs : List Char, form (cs.map plainHyphen) = (form cs).map plainHyphen

end NormalForm

namespace Unicode

def Table.values {α : Type} (table : Table α) : List α :=
  table.flatMap fun shelf => shelf.stretches.map Stretch.value

theorem mem_of_findStretch? {α : Type} {code : Nat} {stretches : List (Stretch α)} {value : α}
    (found : findStretch? code stretches = some value) : value ∈ stretches.map Stretch.value := by
  induction stretches with
  | nil => cases found
  | cons s rest ih =>
      rw [findStretch?] at found
      split_ifs at found
      · cases found
        exact List.mem_cons_self
      · exact List.mem_cons_of_mem _ (ih found)

theorem Table.mem_values {α : Type} {table : Table α} {code : Nat} {value : α}
    (found : table.find? code = some value) : value ∈ table.values := by
  induction table with
  | nil => cases found
  | cons shelf rest ih =>
      rw [values, List.flatMap_cons, List.mem_append]
      rw [find?] at found
      split_ifs at found
      · exact .inr (ih found)
      · exact .inl (mem_of_findStretch? found)

theorem length_decompose (c : Char) :
    0 < (decompose c).length ∧ (decompose c).length ≤ longestRun := by
  rw [decompose]
  split_ifs
  · simp only [syllableLetters]
    split_ifs <;> simp [longestRun]
  · cases found : decompositions.find? c.toNat with
    | none => simp [longestRun]
    | some letters =>
        have table : decompositions.values.all fun letters =>
            0 < letters.length ∧ letters.length ≤ longestRun := by decide +kernel
        have entry := List.all_eq_true.1 table letters (Table.mem_values found)
        simpa using entry

theorem decompose_ne_nil (c : Char) : decompose c ≠ [] :=
  List.ne_nil_of_length_pos (length_decompose c).1

theorem flatten_splitSpelling (cs : List Char) : (splitSpelling cs).flatten = cs := by
  fun_induction splitSpelling cs with
  | case1 => rfl
  | case2 => rfl
  | case3 c d rest none ih =>
      rw [none] at ih
      cases ih
  | case4 c d rest part parts split _ ih =>
      rw [split] at ih
      rw [List.flatten_cons, List.cons_append, ← List.flatten_cons, ih]
  | case5 c d rest part parts split _ ih =>
      rw [split] at ih
      rw [List.flatten_cons, ih]
      rfl

theorem flatten_spellAfter (opened cs : List Char) :
    (spellAfter opened cs).flatten = opened ++ cs.flatMap decompose := by
  fun_induction spellAfter opened cs with
  | case1 opened => simp
  | case2 opened c rest none ih =>
      have spelled := flatten_splitSpelling (decompose c)
      rw [none] at spelled
      exact absurd spelled.symm (decompose_ne_nil c)
  | case3 opened c rest part parts split all ih =>
      have spelled := flatten_splitSpelling (decompose c)
      rw [split, List.flatten_cons] at spelled
      have whole : all.dropLast ++ [all.getLastD []] = all := by
        rw [List.getLastD_eq_getLast?, List.getLast?_eq_some_getLast (List.cons_ne_nil _ _)]
        exact List.dropLast_append_getLast _
      calc (all.dropLast ++ spellAfter (all.getLastD []) rest).flatten
          = (all.dropLast ++ [all.getLastD []]).flatten ++ rest.flatMap decompose := by
            rw [List.flatten_append, List.flatten_append, ih, List.flatten_singleton,
              List.append_assoc]
        _ = opened ++ (part ++ parts.flatten) ++ rest.flatMap decompose := by
            rw [whole, List.flatten_cons, List.append_assoc opened]
        _ = opened ++ (c :: rest).flatMap decompose := by
            rw [spelled, List.flatMap_cons, List.append_assoc]

theorem length_insertMark (c : Char) (cs : List Char) :
    (insertMark c cs).length = cs.length + 1 := by
  induction cs with
  | nil => rfl
  | cons d rest ih =>
      rw [insertMark]
      split_ifs
      · rw [List.length_cons, ih, List.length_cons]
      · rfl

theorem length_orderMarks (cs : List Char) : (orderMarks cs).length = cs.length := by
  induction cs with
  | nil => rfl
  | cons c rest ih => rw [orderMarks, length_insertMark, ih, List.length_cons]

theorem compose_eq_nil_iff {cs : List Char} : compose cs = [] ↔ cs = [] := by
  cases cs with
  | nil => simp [compose]
  | cons c rest => simp [compose, Composing.toList]

theorem clustersFrom_ne_nil (run : Nat) {cluster cs : List Char} (some : cluster ++ cs ≠ []) :
    ∃ part ∈ clustersFrom run cluster cs, part ≠ [] := by
  cases cluster with
  | cons c cluster =>
      obtain ⟨first, others, cut⟩ := clustersFrom_cons c run cluster cs
      rw [cut]
      exact ⟨_, List.mem_cons_self, List.cons_ne_nil c first⟩
  | nil =>
      cases cs with
      | nil => exact absurd rfl some
      | cons c rest =>
          have opens (run : Nat) : ∃ part ∈ clustersFrom run [c] rest, part ≠ [] := by
            obtain ⟨first, others, cut⟩ := clustersFrom_cons c run [] rest
            rw [cut]
            exact ⟨_, List.mem_cons_self, List.cons_ne_nil c first⟩
          rw [clustersFrom]
          split_ifs
          · exact ⟨_, List.mem_cons_self, by simp⟩
          · obtain ⟨part, member, some⟩ := opens (trailCount c)
            exact ⟨part, List.mem_cons_of_mem _ member, some⟩
          · exact opens _

theorem nfc_ne_nil {cs : List Char} (some : cs ≠ []) : nfc cs ≠ [] := by
  intro none
  have whole : [] ++ cs ≠ [] := some
  obtain ⟨cluster, member, full⟩ := clustersFrom_ne_nil 0 whole
  have spelled : (spellAfter [] cluster).flatten ≠ [] := by
    obtain ⟨c, rest, rfl⟩ := List.exists_cons_of_ne_nil full
    rw [flatten_spellAfter, List.flatMap_cons]
    simp [decompose_ne_nil]
  apply spelled
  rw [List.flatten_eq_nil_iff]
  intro part inside
  have gone := List.flatMap_eq_nil_iff.1 none part (List.mem_flatMap.2 ⟨cluster, member, inside⟩)
  rw [compose_eq_nil_iff, ← List.length_eq_zero_iff, length_orderMarks] at gone
  exact List.length_eq_zero_iff.1 gone

theorem letter_of_mem_syllableLetters {m n : Nat} (syllable : isSyllable m)
    (letter : n ∈ syllableLetters m) : 0x1100 ≤ n ∧ n < 0x1200 := by
  have bound : m < 0xAC00 + 19 * 21 * 28 := of_decide_eq_true (Bool.and_eq_true_iff.1 syllable).2
  unfold syllableLetters firstSyllable firstLead firstVowel noTrail at letter
  dsimp only at letter
  split_ifs at letter
  · simp only [List.mem_cons, List.not_mem_nil, or_false] at letter
    omega
  · simp only [List.mem_cons, List.mem_append, List.not_mem_nil, or_false] at letter
    omega

theorem not_isHyphen_of_mem_decompose {c d : Char} (other : ¬ isHyphen c)
    (member : d ∈ decompose c) : ¬ isHyphen d := by
  rw [decompose] at member
  split_ifs at member with syllable
  · obtain ⟨n, letter, rfl⟩ := List.mem_map.1 member
    have bounds := letter_of_mem_syllableLetters syllable letter
    exact not_isHyphen_ofNat (not_mem_hyphenNumbers bounds.1 (.inl bounds.2))
  · cases found : decompositions.find? c.toNat with
    | none =>
        rw [found] at member
        rwa [List.mem_singleton.1 member]
    | some letters =>
        rw [found] at member
        obtain ⟨n, letter, rfl⟩ := List.mem_map.1 member
        have table : decompositions.values.all (·.all (· ∉ hyphenNumbers)) := by decide +kernel
        have entry := List.all_eq_true.1 table letters (Table.mem_values found)
        exact not_isHyphen_ofNat (of_decide_eq_true (List.all_eq_true.1 entry n letter))

/-- Scalars that combine, and what they make, are no hyphens. -/
def Spares (combine : Char → Char → Option Char) : Prop :=
  ∀ a b c, combine a b = some c → ¬ isHyphen a ∧ ¬ isHyphen b ∧ ¬ isHyphen c

theorem Spares.plainHyphen {combine : Char → Char → Option Char} (spares : Spares combine)
    (a b : Char) : combine (plainHyphen a) (plainHyphen b) = (combine a b).map plainHyphen := by
  -- No hyphen combines, so two scalars that do are their own plain forms.
  cases made : combine a b with
  | some c =>
      obtain ⟨first, second, third⟩ := spares a b c made
      rw [plainHyphen_of_not first, plainHyphen_of_not second, made, Option.map_some,
        plainHyphen_of_not third]
  | none =>
      rw [Option.map_none, Option.eq_none_iff_forall_ne_some]
      intro c plain
      obtain ⟨first, second, _⟩ := spares _ _ c plain
      rw [isHyphen_plainHyphen] at first second
      rw [plainHyphen_of_not first, plainHyphen_of_not second, made] at plain
      cases plain

theorem exists_composition {a b c : Char} (made : composite? a b = some c) :
    ∃ pairs n, (compositions.find? (a.toNat % 0x10000) = some pairs ∨
        compositions.find? (a.toNat % 0x10000 + 0x10000) = some pairs) ∧
      (b.toNat, n) ∈ pairs ∧ c = Char.ofNat n := by
  obtain ⟨n, found, rfl⟩ := Option.map_eq_some_iff.1 made
  have entry {first : Nat}
      (found : (compositions.find? first).bind (·.lookup b.toNat) = some n) :
      ∃ pairs, compositions.find? first = some pairs ∧ (b.toNat, n) ∈ pairs := by
    obtain ⟨pairs, listed, looked⟩ := Option.bind_eq_some_iff.1 found
    obtain ⟨before, after, rfl, _⟩ := List.lookup_eq_some_iff.1 looked
    exact ⟨_, listed, by simp⟩
  rcases Option.or_eq_some_iff.1 found with low | ⟨_, high⟩
  · obtain ⟨pairs, listed, member⟩ := entry low
    exact ⟨pairs, n, .inl listed, member, rfl⟩
  · obtain ⟨pairs, listed, member⟩ := entry high
    exact ⟨pairs, n, .inr listed, member, rfl⟩

theorem exists_of_mem_joiners {n : Nat} (joins : n ∈ joiners) :
    ∃ pairs ∈ compositions.values, ∃ pair ∈ pairs, pair.1 = n := by
  rw [joiners, List.mem_eraseDups] at joins
  obtain ⟨shelf, shelved, joins⟩ := List.mem_flatMap.1 joins
  obtain ⟨s, stretched, joins⟩ := List.mem_flatMap.1 joins
  obtain ⟨pair, member, same⟩ := List.mem_map.1 joins
  have listed : s.value ∈ compositions.values :=
    List.mem_flatMap.2 ⟨shelf, shelved, List.mem_map_of_mem stretched⟩
  exact ⟨s.value, listed, pair, member, same⟩

theorem compositions_spare_hyphens {pairs : List (Nat × Nat)}
    (listed : pairs ∈ compositions.values) {pair : Nat × Nat} (member : pair ∈ pairs) :
    pair.1 ∉ hyphenNumbers ∧ pair.2 ∉ hyphenNumbers := by
  have table : compositions.values.all
      (·.all fun pair => pair.1 ∉ hyphenNumbers ∧ pair.2 ∉ hyphenNumbers) := by decide +kernel
  exact of_decide_eq_true (List.all_eq_true.1 (List.all_eq_true.1 table pairs listed) pair member)

theorem spares_composite? : Spares composite? := by
  intro a b c made
  obtain ⟨pairs, n, listed, member, rfl⟩ := exists_composition made
  have entry :=
    compositions_spare_hyphens (listed.elim Table.mem_values Table.mem_values) member
  refine ⟨?_, fun hyphen => entry.1 (isHyphen_iff.1 hyphen), not_isHyphen_ofNat entry.2⟩
  intro hyphen
  have firsts : hyphenNumbers.all fun m => (compositions.find? (m % 0x10000)).isNone &&
      (compositions.find? (m % 0x10000 + 0x10000)).isNone := by decide +kernel
  have absent := List.all_eq_true.1 firsts a.toNat (isHyphen_iff.1 hyphen)
  rcases listed with listed | listed <;> simp [listed] at absent

theorem bounds_of_isLead {n : Nat} (lead : isLead n) : 0x1100 ≤ n ∧ n < 0x1113 :=
  (Bool.and_eq_true_iff.1 lead).imp of_decide_eq_true of_decide_eq_true

theorem bounds_of_isVowel {n : Nat} (vowel : isVowel n) : 0x1161 ≤ n ∧ n < 0x1176 :=
  (Bool.and_eq_true_iff.1 vowel).imp of_decide_eq_true of_decide_eq_true

theorem bounds_of_isTrail {n : Nat} (trail : isTrail n) : 0x11A7 < n ∧ n < 0x11C3 :=
  (Bool.and_eq_true_iff.1 trail).imp of_decide_eq_true of_decide_eq_true

theorem spares_syllable? :
    Spares fun a b => (syllable? a.toNat b.toNat).map Char.ofNat := by
  intro a b c made
  obtain ⟨n, found, rfl⟩ := Option.map_eq_some_iff.1 made
  rw [syllable?] at found
  split_ifs at found with letters behind
  · obtain ⟨lead, vowel⟩ := Bool.and_eq_true_iff.1 letters
    have lead := bounds_of_isLead lead
    have vowel := bounds_of_isVowel vowel
    have made : 0xAC00 ≤ n := Option.some.inj found ▸ Nat.le_add_right firstSyllable _
    exact ⟨isHyphen_iff.not.2 (not_mem_hyphenNumbers lead.1 (.inl (by omega))),
      isHyphen_iff.not.2 (not_mem_hyphenNumbers (by omega) (.inl (by omega))),
      not_isHyphen_ofNat (not_mem_hyphenNumbers (Nat.le_trans (by decide) made) (.inr made))⟩
  · obtain ⟨syllable, trail⟩ := Bool.and_eq_true_iff.1 behind
    have trail := bounds_of_isTrail trail
    have first : 0xAC00 ≤ a.toNat :=
      of_decide_eq_true (Bool.and_eq_true_iff.1 (Bool.and_eq_true_iff.1 syllable).1).1
    have made : 0xAC00 ≤ n :=
      Option.some.inj found ▸ Nat.le_trans first (Nat.le_add_right a.toNat _)
    exact ⟨isHyphen_iff.not.2 (not_mem_hyphenNumbers (by omega) (.inr first)),
      isHyphen_iff.not.2 (not_mem_hyphenNumbers (by omega) (.inl (by omega))),
      not_isHyphen_ofNat (not_mem_hyphenNumbers (Nat.le_trans (by decide) made) (.inr made))⟩

/-- A hyphen stands alone: it takes no part in the making of the form. -/
structure IsInert (c : Char) : Prop where
  starter : combiningClass c = 0
  joinsNone : joinsBackward c = false
  notTrailing : isTrailing c = false
  lead : leadCount c = 0
  trail : trailCount c = 0
  spelled : decompose c = [c]

theorem isInert_of_isHyphen {c : Char} (hyphen : isHyphen c) : IsInert c := by
  have table : hyphenNumbers.all fun n => combiningClass (Char.ofNat n) == 0 && !isVowel n &&
      !isTrail n && (compatibles.find? n).isNone && decompose (Char.ofNat n) == [Char.ofNat n] := by
    decide +kernel
  have entry := List.all_eq_true.1 table c.toNat (isHyphen_iff.1 hyphen)
  simp only [Char.ofNat_toNat, Bool.and_eq_true, Bool.not_eq_true', beq_iff_eq,
    Option.isNone_iff_eq_none] at entry
  obtain ⟨⟨⟨⟨starter, vowel⟩, trail⟩, compatible⟩, spelled⟩ := entry
  have joinsNone : joinsBackward c = false := by
    have apart : c.toNat ∉ joiners := by
      intro joins
      obtain ⟨pairs, listed, pair, member, same⟩ := exists_of_mem_joiners joins
      exact (compositions_spare_hyphens listed member).1 (same ▸ isHyphen_iff.1 hyphen)
    simpa [joinsBackward] using apart
  have notTrailing : isTrailing c = false := by
    simp [isTrailing, starter, vowel, trail, joinsNone]
  refine ⟨starter, joinsNone, notTrailing, ?_, ?_, spelled⟩
  · simp [leadCount, compatible, spelled, notTrailing]
  · simp [trailCount, compatible, spelled, notTrailing]

theorem decompose_plainHyphen (c : Char) :
    decompose (plainHyphen c) = (decompose c).map plainHyphen := by
  by_cases hyphen : isHyphen c
  · have plain := isInert_of_isHyphen (isHyphen_plainHyphen c ▸ hyphen)
    rw [plain.spelled, (isInert_of_isHyphen hyphen).spelled, List.map_singleton]
  · rw [plainHyphen_of_not hyphen,
      map_plainHyphen_of_not fun d member => not_isHyphen_of_mem_decompose hyphen member]

theorem combiningClass_plainHyphen (c : Char) :
    combiningClass (plainHyphen c) = combiningClass c :=
  apply_plainHyphen (fun _ hyphen => (isInert_of_isHyphen hyphen).starter) c

theorem isTrailing_plainHyphen (c : Char) : isTrailing (plainHyphen c) = isTrailing c :=
  apply_plainHyphen (fun _ hyphen => (isInert_of_isHyphen hyphen).notTrailing) c

theorem joinsBackward_plainHyphen (c : Char) : joinsBackward (plainHyphen c) = joinsBackward c :=
  apply_plainHyphen (fun _ hyphen => (isInert_of_isHyphen hyphen).joinsNone) c

theorem leadCount_plainHyphen (c : Char) : leadCount (plainHyphen c) = leadCount c :=
  apply_plainHyphen (fun _ hyphen => (isInert_of_isHyphen hyphen).lead) c

theorem trailCount_plainHyphen (c : Char) : trailCount (plainHyphen c) = trailCount c :=
  apply_plainHyphen (fun _ hyphen => (isInert_of_isHyphen hyphen).trail) c

theorem inBlock_plainHyphen (c : Char) :
    decide ((plainHyphen c).toNat / 0x100 = firstLead / 0x100)
      = decide (c.toNat / 0x100 = firstLead / 0x100) := by
  apply apply_plainHyphen (g := fun c => decide (c.toNat / 0x100 = firstLead / 0x100)) (a := false)
  intro d hyphen
  have table : hyphenNumbers.all fun n => n / 0x100 ≠ firstLead / 0x100 := by decide
  have entry := List.all_eq_true.1 table d.toNat (isHyphen_iff.1 hyphen)
  simpa using entry

theorem clustersFrom_plainHyphen (run : Nat) (cluster cs : List Char) :
    clustersFrom run (cluster.map plainHyphen) (cs.map plainHyphen)
      = (clustersFrom run cluster cs).map (·.map plainHyphen) := by
  induction cs generalizing run cluster with
  | nil => rfl
  | cons c rest ih =>
      have opened := ih (leadCount c) [c]
      have passed := ih (trailCount c) [c]
      have longer := ih (run + leadCount c) (cluster ++ [c])
      simp only [List.map_cons, List.map_nil, List.map_append] at opened passed longer
      rw [List.map_cons, clustersFrom, clustersFrom, leadCount_plainHyphen, trailCount_plainHyphen]
      simp only [opened, passed, longer]
      split_ifs
      · rw [List.map_cons, List.map_append]
        rfl
      · rw [List.map_cons]
      · rfl

theorem splitSpelling_plainHyphen (cs : List Char) :
    splitSpelling (cs.map plainHyphen) = (splitSpelling cs).map (·.map plainHyphen) := by
  fun_induction splitSpelling cs with
  | case1 => rfl
  | case2 => rfl
  | case3 c d rest none ih =>
      rw [List.map_cons] at ih
      rw [List.map_cons, List.map_cons, splitSpelling, ih, none]
      rfl
  | case4 c d rest part parts split trailing ih =>
      rw [List.map_cons] at ih
      rw [List.map_cons, List.map_cons, splitSpelling, ih, split]
      simp only [List.map_cons, isTrailing_plainHyphen, trailing, if_true]
  | case5 c d rest part parts split trailing ih =>
      rw [List.map_cons] at ih
      rw [List.map_cons, List.map_cons, splitSpelling, ih, split]
      simp only [List.map_cons, isTrailing_plainHyphen, trailing]
      rfl

theorem spellAfter_plainHyphen (opened cs : List Char) :
    spellAfter (opened.map plainHyphen) (cs.map plainHyphen)
      = (spellAfter opened cs).map (·.map plainHyphen) := by
  fun_induction spellAfter opened cs with
  | case1 => rfl
  | case2 opened c rest none ih =>
      rw [List.map_cons, spellAfter, decompose_plainHyphen, splitSpelling_plainHyphen, none]
      exact ih
  | case3 opened c rest part parts split all ih =>
      have whole : (opened.map plainHyphen ++ part.map plainHyphen) ::
          parts.map (·.map plainHyphen) = all.map (·.map plainHyphen) := by
        rw [← List.map_append, ← List.map_cons]
      have last :
          (all.map (·.map plainHyphen)).getLastD [] = (all.getLastD []).map plainHyphen := by
        rw [List.getLastD_eq_getLast?, List.getLastD_eq_getLast?, List.getLast?_map]
        exact Option.getD_map (·.map plainHyphen) [] all.getLast?
      rw [List.map_cons, spellAfter, decompose_plainHyphen, splitSpelling_plainHyphen, split]
      simp only [List.map_cons, whole, last, ih, List.map_append, List.map_dropLast]

theorem insertMark_plainHyphen (c : Char) (cs : List Char) :
    insertMark (plainHyphen c) (cs.map plainHyphen) = (insertMark c cs).map plainHyphen := by
  induction cs with
  | nil => rfl
  | cons d rest ih =>
      rw [List.map_cons, insertMark, insertMark, combiningClass_plainHyphen,
        combiningClass_plainHyphen, ih]
      split_ifs <;> simp only [List.map_cons]

theorem orderMarks_plainHyphen (cs : List Char) :
    orderMarks (cs.map plainHyphen) = (orderMarks cs).map plainHyphen := by
  induction cs with
  | nil => rfl
  | cons c rest ih => rw [List.map_cons, orderMarks, orderMarks, ih, insertMark_plainHyphen]

namespace Composing

def plain (w : Composing) : Composing :=
  ⟨w.settled.map plainHyphen, plainHyphen w.base, w.held.map plainHyphen⟩

theorem toList_plain (w : Composing) : w.plain.toList = w.toList.map plainHyphen := by
  simp only [toList, plain, List.map_append, List.map_cons]

theorem last_plain (w : Composing) : w.plain.last = plainHyphen w.last := by
  simp only [last, plain, List.getLastD_eq_getLast?, List.getLast?_map, Option.getD_map]

theorem rebase_plain (w : Composing) : w.plain.rebase = w.rebase.plain := by
  rw [rebase, rebase, last_plain, combiningClass_plainHyphen, toList_plain]
  split_ifs
  · simp only [plain, List.map_dropLast, List.map_nil]
  · rfl

theorem blocks_plain (w : Composing) (c : Char) : w.plain.blocks (plainHyphen c) = w.blocks c := by
  simp only [blocks, last_plain, combiningClass_plainHyphen]
  simp [plain]

theorem hold_plain (w : Composing) (c : Char) :
    w.plain.hold (plainHyphen c) = (w.hold c).plain := by
  simp [hold, plain]

theorem join_plain {combine : Char → Char → Option Char} (spares : Spares combine) (w : Composing)
    (c : Char) : w.plain.join combine (plainHyphen c) = (w.join combine c).plain := by
  have combined : (if w.blocks c then none else combine w.plain.base (plainHyphen c))
      = (if w.blocks c then none else combine w.base c).map plainHyphen := by
    split_ifs
    · rfl
    · exact spares.plainHyphen w.base c
  rw [join, join, blocks_plain, hold_plain, combined]
  cases if w.blocks c then none else combine w.base c <;> rfl

theorem syllables_plain (w : Composing) (cs : List Char) :
    w.plain.syllables (cs.map plainHyphen) = (w.syllables cs).plain := by
  induction cs generalizing w with
  | nil => rfl
  | cons c rest ih =>
      rw [List.map_cons, syllables, syllables, rebase_plain, join_plain spares_syllable?, ih]

theorem pairs_plain (w : Composing) (cs : List Char) :
    w.plain.pairs (cs.map plainHyphen) = (w.pairs cs).plain := by
  -- Every question the composer asks has one answer for all hyphens, so both runs branch alike.
  induction cs generalizing w with
  | nil => rfl
  | cons c rest ih =>
      have block := inBlock_plainHyphen c
      rw [decide_eq_decide] at block
      have held := hold_plain w c
      have joined := join_plain spares_composite? w.rebase c
      rw [← rebase_plain] at joined
      rw [List.map_cons, pairs, pairs, joinsBackward_plainHyphen, held, joined, ih, ih,
        ← List.map_cons, syllables_plain]
      simp only [block]
      split_ifs <;> rfl

end Composing

theorem compose_plainHyphen (cs : List Char) :
    compose (cs.map plainHyphen) = (compose cs).map plainHyphen := by
  cases cs with
  | nil => rfl
  | cons c rest =>
      rw [List.map_cons, compose, compose, ← Composing.toList_plain, ← Composing.pairs_plain]
      rfl

theorem nfc_ignoresHyphens : NormalForm.IgnoresHyphens nfc := by
  intro cs
  -- One stage after the other: clusters, their spelling, the order of marks, composition.
  have spelled (cluster : List Char) :
      spellAfter [] (cluster.map plainHyphen) = (spellAfter [] cluster).map (·.map plainHyphen) :=
    spellAfter_plainHyphen [] cluster
  have parts : (clusters (cs.map plainHyphen)).flatMap (spellAfter [])
      = ((clusters cs).flatMap (spellAfter [])).map (·.map plainHyphen) := by
    have cut : clusters (cs.map plainHyphen) = (clusters cs).map (·.map plainHyphen) :=
      clustersFrom_plainHyphen 0 [] cs
    rw [cut, List.flatMap_map, List.map_flatMap]
    simp only [spelled]
  rw [nfc, nfc, parts, List.flatMap_map, List.map_flatMap]
  simp only [orderMarks_plainHyphen, compose_plainHyphen]

end Unicode

namespace Profile

theorem form_ofStrict (strict : Bool) : (ofStrict strict).form = Unicode.nfc := by
  cases strict <;> rfl

theorem normalize_ne_nil (strict : Bool) {cs : List Char} (some : cs ≠ []) :
    (ofStrict strict).form.normalize cs ≠ [] := by
  rw [NormalForm.normalize, form_ofStrict, Ne, List.map_eq_nil_iff]
  exact Unicode.nfc_ne_nil some

end Profile

end AsnLexis
