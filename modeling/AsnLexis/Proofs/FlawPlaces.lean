import AsnLexis.Proofs.Acceptance
import Mathlib

/-! Where the error of a refused candidate points. If the normal form has as many scalars as the
candidate, that is the scalar with the index of the flaw, which is the offending one as long as the
form goes scalar by scalar up to there. Where the form joins some scalars and takes others apart, it
need not be. -/

namespace AsnLexis

section Spellings

variable {f : Char → List Char} {cs : List Char}

theorem length_eq_one_of_flatMap (full : ∀ c, f c ≠ [])
    (same : (cs.flatMap f).length = cs.length) : ∀ c ∈ cs, (f c).length = 1 := by
  have enough (ds : List Char) : ds.length ≤ (ds.flatMap f).length := by
    induction ds with
    | nil => exact Nat.le_refl 0
    | cons d ds ih =>
        have one := List.length_pos_iff.2 (full d)
        rw [List.flatMap_cons, List.length_append, List.length_cons]
        omega
  induction cs with
  | nil => simp
  | cons d ds ih =>
      have one := List.length_pos_iff.2 (full d)
      have rest := enough ds
      rw [List.flatMap_cons, List.length_append, List.length_cons] at same
      exact List.forall_mem_cons.2 ⟨by omega, ih (by omega)⟩

theorem take_flatMap (single : ∀ c ∈ cs, (f c).length = 1) (k : Nat) :
    (cs.flatMap f).take k = (cs.take k).flatMap f := by
  induction cs generalizing k with
  | nil => simp
  | cons c cs ih =>
      obtain ⟨one, later⟩ := List.forall_mem_cons.1 single
      obtain ⟨d, spelled⟩ := List.length_eq_one_iff.1 one
      cases k with
      | zero => simp
      | succ k => simp [spelled, ih later]

theorem mem_of_getElem?_flatMap (single : ∀ c ∈ cs, (f c).length = 1) {i : Nat} {c d : Char}
    (here : cs[i]? = some c) (spelled : (cs.flatMap f)[i]? = some d) : d ∈ f c := by
  induction cs generalizing i with
  | nil => cases here
  | cons b cs ih =>
      obtain ⟨one, later⟩ := List.forall_mem_cons.1 single
      obtain ⟨a, first⟩ := List.length_eq_one_iff.1 one
      rw [List.flatMap_cons, first, List.singleton_append] at spelled
      cases i with
      | zero =>
          cases here
          cases spelled
          simp [first]
      | succ i => exact ih later here spelled

end Spellings

namespace NormalForm

variable {form : NormalForm} {cs : List Char} {i : Nat}

/-- Up to the scalar with an index, the normal form of a text is that of its scalars. -/
def Follows (form : NormalForm) (cs : List Char) (i : Nat) : Prop :=
  (form.normalize cs).take (i + 1) = (cs.take (i + 1)).flatMap fun c => form.normalize [c]

theorem Follows.mem_normalize (follows : form.Follows cs i) (full : ∀ c, form.normalize [c] ≠ [])
    (same : (form.normalize cs).length = cs.length) {c d : Char} (here : cs[i]? = some c)
    (spelled : (form.normalize cs)[i]? = some d) : d ∈ form.normalize [c] := by
  have inside := (List.getElem?_eq_some_iff.1 here).1
  have lengths := congrArg List.length follows
  rw [List.length_take_of_le (by omega)] at lengths
  have single : ∀ c ∈ cs.take (i + 1), (form.normalize [c]).length = 1 :=
    length_eq_one_of_flatMap full (by rw [← lengths, List.length_take_of_le inside])
  apply mem_of_getElem?_flatMap single (i := i)
  · rw [List.getElem?_take_of_lt (Nat.lt_succ_self i), here]
  · rw [← follows, List.getElem?_take_of_lt (Nat.lt_succ_self i), spelled]

theorem follows_of_flatMap (whole : form.normalize cs = cs.flatMap fun c => form.normalize [c])
    (full : ∀ c, form.normalize [c] ≠ []) (same : (form.normalize cs).length = cs.length) :
    form.Follows cs i := by
  rw [Follows, whole]
  exact take_flatMap (length_eq_one_of_flatMap full (whole ▸ same)) (i + 1)

end NormalForm

namespace Unicode

def Compatible.marks : Compatible → Nat
  | joining => 1
  | spacing count => count

theorem trailCount_le (c : Char) : trailCount c ≤ longestRun := by
  rw [trailCount]
  split
  next => decide
  next count found =>
    have table : compatibles.values.all (·.marks ≤ longestRun) := by decide +kernel
    exact of_decide_eq_true (List.all_eq_true.1 table _ (Table.mem_values found))
  next =>
    apply Nat.le_trans (List.takeWhile_prefix isTrailing).length_le
    rw [List.length_reverse]
    exact (length_decompose c).2

theorem nfc_eq_flatMap {cs : List Char} (apart : ∀ c ∈ cs, leadCount c = 0) :
    nfc cs = cs.flatMap fun c => nfc [c] := by
  -- Without a mark in front each scalar is a cluster, and clusters are worked off one by one.
  have cut (ds : List Char) (apart : ∀ c ∈ ds, leadCount c = 0) :
      clusters ds = [] :: ds.map ([·]) :=
    clustersFrom_alone (Nat.zero_le longestRun) [] fun c member => ⟨apart c member, trailCount_le c⟩
  have one {c : Char} (member : c ∈ cs) :
      nfc [c] = (spellAfter [] [c]).flatMap fun part => compose (orderMarks part) := by
    rw [nfc, cut [c] (by simpa using apart c member)]
    simp [spellAfter, orderMarks, compose]
  calc nfc cs
      = ((cs.map ([·])).flatMap (spellAfter [])).flatMap fun part => compose (orderMarks part) := by
        rw [nfc, cut cs apart, List.flatMap_cons, List.flatMap_append]
        rfl
    _ = cs.flatMap fun c => (spellAfter [] [c]).flatMap fun part => compose (orderMarks part) := by
        rw [List.flatMap_map, List.flatMap_assoc]
    _ = cs.flatMap fun c => nfc [c] := List.flatMap_congr fun c member => (one member).symm

end Unicode

namespace Profile

/-- What the error of a refused candidate says of the scalar `d` of the normal form, which breaks a
rule at index `i`: where the error points, and when that is at the scalar that became `d`. -/
structure Places (p : Profile) (candidate : Candidate) (e : IdentifierError) (i : Nat)
    (flaw : IdentifierFlaw) (d : Char) : Prop where
  breaks : p.Breaks (p.form.normalize (candidate.map Prod.fst)) i flaw
  offending : (p.form.normalize (candidate.map Prod.fst))[i]? = some d
  reason : e.reason = flaw.message
  other : (p.form.normalize (candidate.map Prod.fst)).length ≠ candidate.length →
    ∃ c, candidate.head? = some (c, e.offset)
  same : (p.form.normalize (candidate.map Prod.fst)).length = candidate.length →
    ∃ c, candidate[i]? = some (c, e.offset)
  points : (p.form.normalize (candidate.map Prod.fst)).length = candidate.length →
    p.form.Follows (candidate.map Prod.fst) i →
    ∀ c, (c, e.offset) ∈ candidate → d ∈ p.form.normalize [c]
  apart : (p.form.normalize (candidate.map Prod.fst)).length = candidate.length →
    (∀ c ∈ candidate.map Prod.fst, Unicode.leadCount c = 0) →
    p.form.Follows (candidate.map Prod.fst) i

theorem normalize_eq_flatMap (strict : Bool) {cs : List Char}
    (apart : ∀ c ∈ cs, Unicode.leadCount c = 0) :
    (ofStrict strict).form.normalize cs
      = cs.flatMap fun c => (ofStrict strict).form.normalize [c] := by
  simp only [NormalForm.normalize, form_ofStrict]
  rw [Unicode.nfc_eq_flatMap apart, List.map_flatMap]

/-- The error of a refused candidate is about the first rule that the normal form breaks. If the
form has another number of scalars than the candidate, the error points at the first scalar; else
at the scalar with the index of the flaw, which spells the offending one if the form goes scalar by
scalar up to there. It does so if no scalar of the candidate begins with a mark. -/
theorem identifier_errors_placed (strict : Bool) {candidate : Candidate} {e : IdentifierError}
    (some : candidate ≠ []) (offsets : (candidate.map Prod.snd).Nodup)
    (refused : (ofStrict strict).classify candidate = .error e) :
    ∃ i flaw d, (ofStrict strict).Places candidate e i flaw d := by
  have full (c : Char) := normalize_ne_nil strict (List.cons_ne_nil c [])
  obtain ⟨i, flaw, c, breaks, reason, _, place⟩ := exists_breaks_of_classify
    (fun some => normalize_ne_nil strict (by simpa using some)) some refused
  have offending := List.getElem?_eq_getElem breaks.lt
  refine ⟨i, flaw, _, breaks, offending, reason, ?_, ?_, ?_, ?_⟩
  · intro other
    rw [if_neg other] at place
    exact ⟨c, by rw [List.head?_eq_getElem?, place]⟩
  · intro same
    rw [if_pos same] at place
    exact ⟨c, place⟩
  · intro same follows b member
    rw [if_pos same] at place
    have one := List.inj_on_of_nodup_map offsets member (List.mem_of_getElem? place) rfl
    obtain rfl : b = c := congrArg Prod.fst one
    apply follows.mem_normalize full (by rw [same, List.length_map]) _ offending
    rw [List.getElem?_map, place]
    rfl
  · intro same apart
    exact NormalForm.follows_of_flatMap (normalize_eq_flatMap strict apart) full
      (by rw [same, List.length_map])

theorem identifier_errors_placed_angstrom :
    let p := Profile.ofStrict false
    let cs := ['\u212B', '-', '\u2010', 'b']
    let candidate := Candidate.ofText (Utf8.encode cs)
    let e : IdentifierError := ⟨4, candidate.text, IdentifierFlaw.adjacentHyphens.message⟩
    candidate ≠ [] ∧ (candidate.map Prod.snd).Nodup ∧ p.classify candidate = .error e ∧
      ∃ i flaw d, p.Places candidate e i flaw d ∧
        ∀ c, (c, e.offset) ∈ candidate → d ∈ p.form.normalize [c] := by
  intro p cs candidate e
  have facts : candidate ≠ [] ∧ (candidate.map Prod.snd).Nodup ∧ p.classify candidate = .error e ∧
      (p.form.normalize (candidate.map Prod.fst)).length = candidate.length ∧
      candidate.map Prod.fst = cs ∧ cs.all (Unicode.leadCount · == 0) := by decide +kernel
  obtain ⟨some, offsets, refused, same, scalars, marks⟩ := facts
  have apart : ∀ c ∈ candidate.map Prod.fst, Unicode.leadCount c = 0 := by
    intro c member
    rw [scalars] at member
    exact beq_iff_eq.1 (List.all_eq_true.1 marks c member)
  obtain ⟨i, flaw, d, places⟩ := identifier_errors_placed false some offsets refused
  exact ⟨some, offsets, refused, i, flaw, d, places, places.points same (places.apart same apart)⟩

/-- An accent joins its letter and a last letter is taken apart, so that the form has as many
scalars as the candidate. The error is about the section sign and points at the accent. -/
theorem identifier_error_beside_flaw :
    let p := Profile.unicode
    let candidate := Candidate.ofText (Utf8.encode ['e', '\u0301', '\u00A7', '\u0958'])
    let n := p.form.normalize (candidate.map Prod.fst)
    let e : IdentifierError := ⟨1, candidate.text, (IdentifierFlaw.notAllowed '\u00A7').message⟩
    (candidate.map Prod.snd).Nodup ∧ n.length = candidate.length ∧ p.classify candidate = .error e ∧
      n[1]? = some '\u00A7' ∧ ('\u0301', e.offset) ∈ candidate ∧
      ∀ c, (c, e.offset) ∈ candidate → '\u00A7' ∉ p.form.normalize [c] := by
  intro p candidate n e
  have facts : (candidate.map Prod.snd).Nodup ∧ n.length = candidate.length ∧
      p.classify candidate = .error e ∧ n[1]? = some '\u00A7' ∧ ('\u0301', e.offset) ∈ candidate ∧
      ∀ entry ∈ candidate, entry.2 = e.offset → '\u00A7' ∉ p.form.normalize [entry.1] := by
    decide +kernel
  obtain ⟨offsets, same, refused, flawed, accent, beside⟩ := facts
  exact ⟨offsets, same, refused, flawed, accent, fun c member => beside (c, e.offset) member rfl⟩

end Profile

end AsnLexis
