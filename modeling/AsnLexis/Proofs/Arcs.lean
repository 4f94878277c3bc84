import AsnLexis.Proofs.Identifier
import AsnLexis.Proofs.OidIri
import Mathlib

/-! The grammar of OID-IRI values. A text is read exactly when it is arcs with solidi between them,
and a solidus in front if it is absolute. What was read is written as it was, and what is written
is read back. -/

namespace AsnLexis

namespace OidIri

/-- The code points beyond ASCII that a label may hold. The basic plane has three ranges of them. In
the planes 1 to 13, and in plane 14 from U+E1000 on, only the last two of each plane are left
out. -/
def IsUcs (n : Nat) : Prop :=
  (0xA0 ≤ n ∧ n < 0xD800) ∨ (0xF900 ≤ n ∧ n < 0xFDD0) ∨ (0xFDF0 ≤ n ∧ n < 0xFFF0) ∨
    ((0x10000 ≤ n ∧ n < 0xE0000 ∨ 0xE1000 ≤ n ∧ n < 0xF0000) ∧ n % 0x10000 < 0xFFFE)

def Unreserved (c : Char) : Prop :=
  isAsciiLetter c ∨ isDigit c ∨ c ∈ ['-', '.', '_', '~'] ∨ IsUcs c.toNat

/-- The labels of arcs. The flag tells integers from the others. -/
inductive IsLabel : Bytes → Bool → Prop
  | zero : IsLabel (Utf8.encode ['0']) true
  | integer {first : Char} {rest : List Char} (digits : ∀ c ∈ first :: rest, isDigit c)
      (positive : first ≠ '0') : IsLabel (Utf8.encode (first :: rest)) true
  | other {cs : List Char} (unreserved : ∀ c ∈ cs, Unreserved c) (mixed : ¬ ∀ c ∈ cs, isDigit c)
      (front : cs.head? ≠ some '-') (back : cs.getLast? ≠ some '-') :
      IsLabel (Utf8.encode cs) false

/-- Labels with solidi between them, and the arcs that they are. -/
inductive IsArcs : Bytes → List Arc → Prop
  | last {label : Bytes} {integer : Bool} (form : IsLabel label integer) :
      IsArcs label [⟨label, integer⟩]
  | more {label rest : Bytes} {integer : Bool} {arcs : List Arc} (form : IsLabel label integer)
      (later : IsArcs rest arcs) : IsArcs (label ++ solidus :: rest) (⟨label, integer⟩ :: arcs)

/-- A value that has a written form: it has arcs, and each is a label with the right flag. -/
structure WellFormed (iri : OidIri) : Prop where
  some : iri.arcs ≠ []
  labels : ∀ arc ∈ iri.arcs, IsLabel arc.label arc.integer

theorem any_labelRanges_iff {n : Nat} :
    labelRanges.any (fun (first, last) => first ≤ n && n ≤ last) ↔ IsUcs n := by
  simp only [labelRanges, List.any_cons, List.any_nil, Bool.or_false, Bool.or_eq_true,
    Bool.and_eq_true, decide_eq_true_eq, IsUcs]
  omega

theorem isUnreserved_iff {c : Char} : isUnreserved c ↔ Unreserved c := by
  rw [Unreserved, ← any_labelRanges_iff]
  simp only [isUnreserved, isAsciiLetter, isDigit, Bool.or_eq_true, beq_iff_eq, or_assoc,
    List.mem_cons, List.not_mem_nil, or_false]

theorem unreserved_of_isDigit {c : Char} (digit : isDigit c) : Unreserved c :=
  .inr (.inl digit)

theorem isDecimal_encodeChar {c : Char} : (Utf8.encodeChar c).all isDecimal = isDigit c := by
  by_cases low : c.toNat < 0x80
  · have entry := of_ascii_table (fun c => (Utf8.encodeChar c).all isDecimal == isDigit c) low
      (by decide +kernel)
    exact beq_iff_eq.1 entry
  · have high := Nat.not_lt.1 low
    have noDigit : isDigit c = false := by
      have above : ¬ c ≤ '9' := fun bound => absurd (Nat.le_trans high bound) (by decide)
      simp [isDigit, above]
    rw [noDigit, List.all_eq_false]
    obtain ⟨b, bytes, spelled⟩ := List.exists_cons_of_ne_nil (Utf8.encodeChar_ne_nil c)
    have member : b ∈ Utf8.encodeChar c := spelled ▸ List.mem_cons_self
    have large := Utf8.high_of_mem_encodeChar high member
    refine ⟨b, member, ?_⟩
    simp only [isDecimal, Bool.and_eq_true, decide_eq_true_eq, UInt8.le_iff_toNat_le]
    rintro ⟨_, bound⟩
    exact absurd (Nat.le_trans large bound) (by decide)

theorem isDecimal_encode {cs : List Char} :
    (Utf8.encode cs).all isDecimal ↔ ∀ c ∈ cs, isDigit c := by
  simp only [Utf8.encode, List.all_flatMap, List.all_eq_true (l := cs), isDecimal_encodeChar]

theorem solidus_not_mem {cs : List Char} (unreserved : ∀ c ∈ cs, Unreserved c) :
    solidus ∉ Utf8.encode cs := by
  intro member
  have found : '/' ∈ cs := (Utf8.mem_encode_ascii (a := '/') (by decide)).1 member
  exact absurd (isUnreserved_iff.2 (unreserved '/' found)) (by decide)

theorem IsLabel.scalars {label : Bytes} {integer : Bool} (form : IsLabel label integer) :
    ∃ cs, label = Utf8.encode cs ∧ cs ≠ [] ∧ (∀ c ∈ cs, Unreserved c) ∧
      (integer ↔ ∀ c ∈ cs, isDigit c) := by
  cases form with
  | zero =>
      exact ⟨['0'], rfl, by simp, by simpa using unreserved_of_isDigit (c := '0') (by decide),
        by simp [isDigit]⟩
  | @integer first rest digits positive =>
      exact ⟨first :: rest, rfl, by simp, fun c member => unreserved_of_isDigit (digits c member),
        by simpa using digits⟩
  | @other cs unreserved mixed front back =>
      refine ⟨cs, rfl, ?_, unreserved, by simpa using mixed⟩
      rintro rfl
      exact mixed (by simp)

theorem IsLabel.solidus_not_mem {label : Bytes} {integer : Bool} (form : IsLabel label integer) :
    solidus ∉ label := by
  obtain ⟨cs, rfl, _, unreserved, _⟩ := form.scalars
  exact OidIri.solidus_not_mem unreserved

theorem IsLabel.integer_iff {label : Bytes} {integer : Bool} (form : IsLabel label integer) :
    integer ↔ label.all isDecimal := by
  obtain ⟨cs, rfl, _, _, flag⟩ := form.scalars
  exact flag.trans isDecimal_encode.symm

theorem firstReserved?_scalars {cs : List Char} (unreserved : ∀ c ∈ cs, Unreserved c)
    (offset : Nat) : firstReserved? offset (cs.map Piece.scalar) = none := by
  induction cs generalizing offset with
  | nil => rfl
  | cons c cs ih =>
      obtain ⟨first, others⟩ := List.forall_mem_cons.1 unreserved
      have free : isUnreserved (Piece.scalar c).shown := isUnreserved_iff.2 first
      rw [List.map_cons, firstReserved?, if_pos free, ih others]

theorem parseArc_encode {cs : List Char} (nonempty : cs ≠ [])
    (unreserved : ∀ c ∈ cs, Unreserved c) (offset : Nat) :
    parseArc offset (Utf8.encode cs) =
      if ∀ c ∈ cs, isDigit c then
        if 1 < (Utf8.encode cs).length ∧ cs.head? = some '0' then .error ⟨offset, .leadingZero⟩
        else .ok ⟨Utf8.encode cs, true⟩
      else if cs.head? = some '-' then .error ⟨offset, .leadingHyphen⟩
      else if cs.getLast? = some '-' then
        .error ⟨offset + (Utf8.encode cs).length - 1, .trailingHyphen⟩
      else .ok ⟨Utf8.encode cs, false⟩ := by
  have some : (Utf8.encode cs).isEmpty = false := by simpa [Utf8.encode_eq_nil] using nonempty
  have zero := Utf8.head?_encode_ascii (a := '0') (by decide) cs
  have front := Utf8.head?_encode_ascii (a := '-') (by decide) cs
  have back := Utf8.getLast?_encode_ascii (a := '-') (by decide) cs
  rw [parseArc, some, Utf8.pieces_encode, firstReserved?_scalars unreserved]
  simp only [Bool.false_eq_true, if_false, isDecimal_encode, Bool.and_eq_true, decide_eq_true_eq,
    beq_iff_eq, ← zero, ← front, ← back]
  rfl

theorem IsLabel.parseArc {label : Bytes} {integer : Bool} (form : IsLabel label integer)
    (offset : Nat) : parseArc offset label = .ok ⟨label, integer⟩ := by
  cases form with
  | zero =>
      have digits : ∀ c ∈ ['0'], isDigit c := List.forall_mem_singleton.2 (by decide)
      have unreserved c (member : c ∈ ['0']) := unreserved_of_isDigit (digits c member)
      rw [parseArc_encode (List.cons_ne_nil _ _) unreserved, if_pos digits, if_neg]
      rintro ⟨more, _⟩
      exact absurd more (by decide +kernel)
  | @integer first rest digits positive =>
      have unreserved c (member : c ∈ first :: rest) := unreserved_of_isDigit (digits c member)
      rw [parseArc_encode (List.cons_ne_nil first rest) unreserved, if_pos digits, if_neg]
      rintro ⟨_, zero⟩
      exact positive (Option.some.inj zero)
  | @other cs unreserved mixed front back =>
      have nonempty : cs ≠ [] := by
        rintro rfl
        exact mixed (by simp)
      rw [parseArc_encode nonempty unreserved, if_neg mixed, if_neg front, if_neg back]

theorem parseArc_eq_ok_iff {offset : Nat} {label : Bytes} {arc : Arc} :
    parseArc offset label = .ok arc ↔ arc.label = label ∧ IsLabel label arc.integer := by
  constructor
  · intro read
    refine ⟨label_of_parseArc read, ?_⟩
    obtain ⟨cs, rfl, permitted⟩ := scalars_of_parseArc read
    have unreserved c (member : c ∈ cs) : Unreserved c := isUnreserved_iff.1 (permitted c member)
    cases cs with
    | nil => cases read
    | cons first rest =>
        rw [parseArc_encode (List.cons_ne_nil first rest) unreserved] at read
        split_ifs at read with digits long front back
        · cases read
          by_cases zero : first = '0'
          · subst zero
            have short : ¬ 1 < (Utf8.encode ('0' :: rest)).length := fun more => long ⟨more, rfl⟩
            rw [Utf8.encode_cons, List.length_append] at short
            have none : Utf8.encode rest = [] := List.eq_nil_of_length_eq_zero (by
              have one : (Utf8.encodeChar '0').length = 1 := rfl
              omega)
            rw [Utf8.encode_eq_nil.1 none]
            exact .zero
          · exact .integer digits zero
        · cases read
          exact .other unreserved digits front back
  · rintro ⟨rfl, form⟩
    exact form.parseArc offset

theorem parseArcs_eq_ok_iff {offset : Nat} {labels : List Bytes} {arcs : List Arc} :
    parseArcs offset labels = .ok arcs ↔
      arcs.map Arc.label = labels ∧ ∀ arc ∈ arcs, IsLabel arc.label arc.integer := by
  constructor
  · intro read
    refine ⟨labels_of_parseArcs read, ?_⟩
    have each := forall₂_of_parseArcs read
    clear read
    induction each with
    | nil => simp
    | cons first _ ih =>
        obtain ⟨start, first⟩ := first
        obtain ⟨rfl, form⟩ := parseArc_eq_ok_iff.1 first
        exact List.forall_mem_cons.2 ⟨form, ih⟩
  · rintro ⟨rfl, forms⟩
    induction arcs generalizing offset with
    | nil => rfl
    | cons arc arcs ih =>
        obtain ⟨form, others⟩ := List.forall_mem_cons.1 forms
        have first : parseArc offset arc.label = .ok arc := parseArc_eq_ok_iff.2 ⟨rfl, form⟩
        rw [List.map_cons, parseArcs, first]
        simp only [ih others]
        rfl

theorem isArcs_iff {text : Bytes} {arcs : List Arc} :
    IsArcs text arcs ↔ arcs ≠ [] ∧ (∀ arc ∈ arcs, IsLabel arc.label arc.integer) ∧
      text = Layout.join [solidus] (arcs.map Arc.label) := by
  constructor
  · intro grammar
    induction grammar with
    | last form => exact ⟨List.cons_ne_nil _ _, by simpa using form, rfl⟩
    | @more label rest integer arcs form later ih =>
        obtain ⟨nonempty, forms, rfl⟩ := ih
        obtain ⟨arc, arcs, rfl⟩ := List.exists_cons_of_ne_nil nonempty
        exact ⟨List.cons_ne_nil _ _, List.forall_mem_cons.2 ⟨form, forms⟩, by simp [Layout.join]⟩
  · rintro ⟨nonempty, forms, rfl⟩
    induction arcs with
    | nil => exact absurd rfl nonempty
    | cons arc arcs ih =>
        obtain ⟨form, others⟩ := List.forall_mem_cons.1 forms
        cases arcs with
        | nil => exact .last form
        | cons next arcs =>
            have later := ih (List.cons_ne_nil next arcs) others
            have written : Layout.join [solidus] ((arc :: next :: arcs).map Arc.label)
                = arc.label ++ solidus :: Layout.join [solidus] ((next :: arcs).map Arc.label) := by
              simp [Layout.join]
            rw [written]
            exact .more form later

theorem IsArcs.split {text : Bytes} {arcs : List Arc} (grammar : IsArcs text arcs) :
    Layout.split solidus text = arcs.map Arc.label := by
  induction grammar with
  | last form => exact Layout.split_of_not_mem form.solidus_not_mem
  | more form _ ih =>
      rw [Layout.split_append, Layout.split_of_not_mem form.solidus_not_mem, ih, List.map_cons]
      rfl

theorem parseArcs_split {offset : Nat} {text : Bytes} {arcs : List Arc} :
    parseArcs offset (Layout.split solidus text) = .ok arcs ↔ IsArcs text arcs := by
  rw [parseArcs_eq_ok_iff]
  constructor
  · rintro ⟨labels, forms⟩
    refine isArcs_iff.2 ⟨?_, forms, by rw [labels, Layout.join_split]⟩
    rintro rfl
    exact Layout.split_ne_nil solidus text labels.symm
  · intro grammar
    exact ⟨grammar.split.symm, (isArcs_iff.1 grammar).2.1⟩

theorem IsLabel.ne_nil {label : Bytes} {integer : Bool} (form : IsLabel label integer) :
    label ≠ [] := by
  obtain ⟨cs, rfl, nonempty, _⟩ := form.scalars
  exact Utf8.encode_eq_nil.not.2 nonempty

theorem IsArcs.head?_ne {text : Bytes} {arcs : List Arc} (grammar : IsArcs text arcs) :
    text.head? ≠ some solidus := by
  have apart {label : Bytes} {integer : Bool} (form : IsLabel label integer) :
      label.head? ≠ some solidus := fun first =>
    form.solidus_not_mem (List.mem_of_mem_head? first)
  cases grammar with
  | last form => exact apart form
  | more form later =>
      rw [List.head?_append_of_ne_nil _ form.ne_nil]
      exact apart form

theorem parse_eq_ok_iff {text : Bytes} {iri : OidIri} :
    parse text = .ok iri ↔
      iri.relative = false ∧ ∃ rest, text = solidus :: rest ∧ IsArcs rest iri.arcs := by
  constructor
  · intro read
    obtain ⟨rest, arcs, rfl, rfl, parts⟩ := parse_eq_ok read
    exact ⟨rfl, rest, rfl, parseArcs_split.1 parts⟩
  · obtain ⟨arcs, relative⟩ := iri
    rintro ⟨rfl, rest, rfl, grammar⟩
    have parts : parseArcs 1 (Layout.split solidus rest) = .ok arcs := parseArcs_split.2 grammar
    simp only [parse, beq_self_eq_true, if_true, parts]
    rfl

theorem parseRelative_eq_ok_iff {text : Bytes} {iri : OidIri} :
    parseRelative text = .ok iri ↔ iri.relative = true ∧ IsArcs text iri.arcs := by
  obtain ⟨arcs, relative⟩ := iri
  rw [parseRelative]
  constructor
  · intro read
    split_ifs at read
    cases parts : parseArcs 0 (Layout.split solidus text) with
    | error failure =>
        rw [parts] at read
        cases read
    | ok arcs =>
        rw [parts] at read
        cases read
        exact ⟨rfl, parseArcs_split.1 parts⟩
  · rintro ⟨rfl, grammar⟩
    rw [if_neg (by simpa using grammar.head?_ne), parseArcs_split.2 grammar]
    rfl

theorem text_absolute {arcs : List Arc} (nonempty : arcs ≠ []) :
    text ⟨arcs, false⟩ = solidus :: Layout.join [solidus] (arcs.map Arc.label) := by
  simp [OidIri.text, nonempty]

theorem text_relative (arcs : List Arc) :
    text ⟨arcs, true⟩ = Layout.join [solidus] (arcs.map Arc.label) := rfl

theorem written_of_parse {text : Bytes} {iri : OidIri}
    (read : parse text = .ok iri ∨ parseRelative text = .ok iri) :
    iri.text = text ∧ iri.WellFormed := by
  obtain ⟨arcs, relative⟩ := iri
  rcases read with read | read
  · obtain ⟨rfl, rest, rfl, grammar⟩ := parse_eq_ok_iff.1 read
    obtain ⟨nonempty, forms, joined⟩ := isArcs_iff.1 grammar
    exact ⟨by rw [text_absolute nonempty, ← joined], nonempty, forms⟩
  · obtain ⟨rfl, grammar⟩ := parseRelative_eq_ok_iff.1 read
    obtain ⟨nonempty, forms, joined⟩ := isArcs_iff.1 grammar
    exact ⟨by rw [text_relative, ← joined], nonempty, forms⟩

theorem WellFormed.isArcs {iri : OidIri} (formed : iri.WellFormed) :
    IsArcs (Layout.join [solidus] (iri.arcs.map Arc.label)) iri.arcs :=
  isArcs_iff.2 ⟨formed.some, formed.labels, rfl⟩

theorem WellFormed.parse_text {iri : OidIri} (formed : iri.WellFormed) :
    (if iri.relative then parseRelative iri.text else parse iri.text) = .ok iri := by
  have grammar := formed.isArcs
  obtain ⟨arcs, relative⟩ := iri
  cases relative with
  | true => exact parseRelative_eq_ok_iff.2 ⟨rfl, grammar⟩
  | false =>
      rw [text_absolute formed.some]
      exact parse_eq_ok_iff.2 ⟨rfl, _, rfl, grammar⟩

/-- A text is read as an OID-IRI exactly when it is a solidus and arcs, and as a relative one
exactly when it is arcs; never as both. What is read has labels for arcs, integers being those of
digits only, and is written as it was. Every value with labels for arcs, of which there is one at
least, is read back from its written form. -/
theorem grammar_of_texts :
    (∀ text, (∃ iri, parse text = .ok iri) ↔
      ∃ rest arcs, text = solidus :: rest ∧ IsArcs rest arcs) ∧
    (∀ text, (∃ iri, parseRelative text = .ok iri) ↔ ∃ arcs, IsArcs text arcs) ∧
    (∀ text iri, parse text = .ok iri ∨ parseRelative text = .ok iri →
      iri.text = text ∧ iri.WellFormed ∧ ∀ arc ∈ iri.arcs, arc.integer ↔ arc.label.all isDecimal) ∧
    (∀ iri : OidIri, iri.WellFormed →
      (if iri.relative then parseRelative iri.text else parse iri.text) = .ok iri) ∧
    (∀ text iri other, ¬ (parse text = .ok iri ∧ parseRelative text = .ok other)) := by
  refine ⟨?_, ?_, ?_, fun iri => WellFormed.parse_text, ?_⟩
  · intro text
    constructor
    · rintro ⟨iri, read⟩
      obtain ⟨_, rest, front, grammar⟩ := parse_eq_ok_iff.1 read
      exact ⟨rest, iri.arcs, front, grammar⟩
    · rintro ⟨rest, arcs, front, grammar⟩
      exact ⟨⟨arcs, false⟩, parse_eq_ok_iff.2 ⟨rfl, rest, front, grammar⟩⟩
  · intro text
    constructor
    · rintro ⟨iri, read⟩
      exact ⟨iri.arcs, (parseRelative_eq_ok_iff.1 read).2⟩
    · rintro ⟨arcs, grammar⟩
      exact ⟨⟨arcs, true⟩, parseRelative_eq_ok_iff.2 ⟨rfl, grammar⟩⟩
  · intro text iri read
    obtain ⟨written, formed⟩ := written_of_parse read
    exact ⟨written, formed, fun arc member => (formed.labels arc member).integer_iff⟩
  · rintro text iri other ⟨absolute, relative⟩
    obtain ⟨_, rest, rfl, _⟩ := parse_eq_ok_iff.1 absolute
    exact (parseRelative_eq_ok_iff.1 relative).2.head?_ne rfl

theorem grammar_of_texts_accent :
    let label := Utf8.encode ['é', '-', '1']
    let text := solidus :: (Utf8.encode ['0'] ++ solidus :: label)
    let iri : OidIri := ⟨[⟨Utf8.encode ['0'], true⟩, ⟨label, false⟩], false⟩
    parse text = .ok iri ∧ iri.WellFormed ∧ iri.text = text ∧ parse iri.text = .ok iri ∧
      ¬ ∃ other, parseRelative text = .ok other := by
  intro label text iri
  obtain ⟨_, _, reads, writes, apart⟩ := grammar_of_texts
  have unreserved : ∀ c ∈ ['é', '-', '1'], Unreserved c := fun c member =>
    isUnreserved_iff.1 (List.all_eq_true.1 (by decide : ['é', '-', '1'].all isUnreserved) c member)
  have mixed : ¬ ∀ c ∈ ['é', '-', '1'], isDigit c := fun digits =>
    absurd (digits '-' (by simp)) (by decide)
  have form : IsLabel label false := .other unreserved mixed (by decide) (by decide)
  have formed : iri.WellFormed :=
    ⟨List.cons_ne_nil _ _, List.forall_mem_cons.2 ⟨.zero, List.forall_mem_singleton.2 form⟩⟩
  have read : parse text = .ok iri := by decide +kernel
  exact ⟨read, formed, (reads text iri (.inl read)).1, writes iri formed,
    fun ⟨other, relative⟩ => apart text iri other ⟨read, relative⟩⟩

end OidIri

end AsnLexis
