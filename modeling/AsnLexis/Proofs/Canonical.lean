import AsnLexis.Proofs.FormLaws
import Mathlib

/-! Canonical forms of texts. The canonical form is the normal form with plain hyphens, ASCII or
not; and with the hyphens alike two texts have one canonical form and spell one identifier, or are
refused for one reason. -/

namespace AsnLexis

theorem exists_of_isAscii {text : Bytes} (ascii : isAscii text) : ∃ cs, text = Utf8.encode cs := by
  induction text with
  | nil => exact ⟨[], rfl⟩
  | cons b text ih =>
      obtain ⟨low, later⟩ := Bool.and_eq_true_iff.1 ascii
      obtain ⟨cs, rfl⟩ := ih later
      have small : b.toNat < 0x80 := UInt8.lt_iff_toNat_lt.1 (of_decide_eq_true low)
      have one : Utf8.encodeChar (Char.ofNat b.toNat) = [b] := by
        have same : (Char.ofNat b.toNat).toNat = b.toNat := by
          rw [Char.toNat_ofNat, if_pos (.inl (by omega))]
        rw [Utf8.encodeChar_ascii (by rw [same]; exact small), same, UInt8.ofNat_toNat]
      exact ⟨Char.ofNat b.toNat :: cs, by rw [Utf8.encode_cons, one, List.singleton_append]⟩

namespace NormalForm

variable {form : NormalForm}

theorem canonical_eq (keeps : form.KeepsAscii) (text : Bytes) :
    form.canonical text = Utf8.encode (form.normalize (Utf8.decodeLossy text)) := by
  by_cases ascii : isAscii text
  · obtain ⟨cs, rfl⟩ := exists_of_isAscii ascii
    rw [canonical_encode keeps, Utf8.decodeLossy_encode]
  · rw [canonical, if_neg ascii]

theorem eq_hyphenMinus_of_mem_normalize {cs : List Char} {c : Char}
    (member : c ∈ form.normalize cs) (hyphen : isHyphen c) : c = hyphenMinus := by
  obtain ⟨d, _, rfl⟩ := List.mem_map.1 member
  rw [isHyphen_plainHyphen] at hyphen
  exact if_pos hyphen

theorem not_mem_normalize (cs : List Char) :
    '\u2010' ∉ form.normalize cs ∧ '\u2011' ∉ form.normalize cs := by
  constructor
  · intro member
    exact absurd (eq_hyphenMinus_of_mem_normalize member (by decide)) (by decide)
  · intro member
    exact absurd (eq_hyphenMinus_of_mem_normalize member (by decide)) (by decide)

theorem IgnoresHyphens.normalize_eq (ignores : form.IgnoresHyphens) (cs : List Char) :
    form.normalize cs = form (cs.map plainHyphen) :=
  (ignores cs).symm

theorem IgnoresHyphens.stableAt (ignores : form.IgnoresHyphens) {cs : List Char}
    (idempotent : form (form cs) = form cs) : form.StableAt cs :=
  ⟨idempotent, ignores (form cs)⟩

end NormalForm

namespace Profile

inductive SameVerdict :
    Except IdentifierError Identifier → Except IdentifierError Identifier → Prop
  | accepted {a b : Identifier} (text : a.text = b.text) (lead : a.lead = b.lead) :
      SameVerdict (.ok a) (.ok b)
  | refused {d e : IdentifierError} (reason : d.reason = e.reason) :
      SameVerdict (.error d) (.error e)

theorem sameVerdict_of_normalize {p : Profile} {a b : Candidate} (empty : a = [] ↔ b = [])
    (same : p.form.normalize (a.map Prod.fst) = p.form.normalize (b.map Prod.fst)) :
    SameVerdict (p.classify a) (p.classify b) := by
  rw [classify, classify, check, check, same]
  cases a with
  | nil =>
      rw [empty.1 rfl]
      exact .refused rfl
  | cons first rest =>
      have some : b ≠ [] := fun none => List.cons_ne_nil first rest (empty.2 none)
      obtain ⟨other, others, rfl⟩ := List.exists_cons_of_ne_nil some
      simp only [List.map_cons, List.isEmpty_cons, Bool.false_eq_true, if_false]
      cases p.flaw? (p.form.normalize (other.1 :: others.map Prod.fst)) with
      | some found => exact .refused rfl
      | none => exact .accepted rfl rfl

def plainScalars (text : Bytes) : List Char := (Utf8.decodeLossy text).map plainHyphen

/-- Laws of canonical forms. The form of a text has to be its own form for the canonical form to be
so; it is ASCII as it stands, and the same whichever hyphens the text is written with. -/
structure CanonicalLaws (p : Profile) : Prop where
  encoded : ∀ text, p.form.canonical text
    = Utf8.encode (p.form.normalize (Utf8.decodeLossy text))
  normalPlain : ∀ cs, '\u2010' ∉ p.form.normalize cs ∧ '\u2011' ∉ p.form.normalize cs
  canonicalPlain : ∀ text,
    let scalars := Utf8.decodeLossy (p.form.canonical text)
    '\u2010' ∉ scalars ∧ '\u2011' ∉ scalars
  normalized : ∀ cs, p.form (p.form cs) = p.form cs →
    p.form.normalize (p.form.normalize cs) = p.form.normalize cs
  canonicalized : ∀ cs, p.form (p.form cs) = p.form cs →
    let once := p.form.canonical (Utf8.encode cs)
    p.form.canonical once = once
  hyphens : ∀ s t, plainScalars s = plainScalars t →
    p.form.canonical s = p.form.canonical t ∧
      SameVerdict (p.classify (.ofText s)) (p.classify (.ofText t))

theorem canonicalLaws {p : Profile} (keeps : p.form.KeepsAscii) (ignores : p.form.IgnoresHyphens) :
    p.CanonicalLaws where
  encoded := NormalForm.canonical_eq keeps
  normalPlain := NormalForm.not_mem_normalize
  canonicalPlain text := by
    simp only [NormalForm.canonical_eq keeps, Utf8.decodeLossy_encode]
    exact NormalForm.not_mem_normalize _
  normalized _ idempotent := (ignores.stableAt idempotent).normalize_normalize
  canonicalized cs idempotent := by
    simp only [NormalForm.canonical_encode keeps, (ignores.stableAt idempotent).normalize_normalize]
  hyphens s t same := by
    have normal : p.form.normalize (Utf8.decodeLossy s)
        = p.form.normalize (Utf8.decodeLossy t) := by
      rw [ignores.normalize_eq, ignores.normalize_eq]
      exact congrArg p.form same
    refine ⟨?_, sameVerdict_of_normalize ?_ ?_⟩
    · rw [NormalForm.canonical_eq keeps, NormalForm.canonical_eq keeps, normal]
    · have lengths := congrArg List.length same
      rw [plainScalars, plainScalars, List.length_map, List.length_map, ← Candidate.scalars_ofText,
        ← Candidate.scalars_ofText, List.length_map, List.length_map] at lengths
      rw [← List.length_eq_zero_iff, ← List.length_eq_zero_iff, lengths]
    · rw [Candidate.scalars_ofText, Candidate.scalars_ofText, normal]

/-- Both profiles have the laws of canonical forms. -/
theorem canonical_form_laws (strict : Bool) : (ofStrict strict).CanonicalLaws := by
  apply canonicalLaws
  · rw [form_ofStrict]
    exact Unicode.nfc_keepsAscii
  · rw [form_ofStrict]
    exact Unicode.nfc_ignoresHyphens

theorem canonical_form_laws_accent :
    let form := Profile.unicode.form
    let cs := ['E', '\u0301', '\u2010', 'b']
    let ds := ['E', '\u0301', '\u2011', 'b']
    form (form cs) = form cs ∧ form.normalize cs = ['\u00C9', '-', 'b'] ∧
      form.normalize (form.normalize cs) = form.normalize cs ∧
      plainScalars (Utf8.encode cs) = plainScalars (Utf8.encode ds) ∧
      form.canonical (Utf8.encode cs) = form.canonical (Utf8.encode ds) ∧
      SameVerdict (Profile.unicode.classify (.ofText (Utf8.encode cs)))
        (Profile.unicode.classify (.ofText (Utf8.encode ds))) := by
  intro form cs ds
  have idempotent : form (form cs) = form cs := by decide +kernel
  have same : plainScalars (Utf8.encode cs) = plainScalars (Utf8.encode ds) := by decide +kernel
  have laws := canonical_form_laws false
  have alike := laws.hyphens _ _ same
  exact ⟨idempotent, by decide +kernel, laws.normalized cs idempotent, same, alike⟩

end Profile

end AsnLexis
