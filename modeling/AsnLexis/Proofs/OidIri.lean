import AsnLexis.Pipeline.Job
import AsnLexis.Proofs.Utf8
import Mathlib

/-! OID-IRI values as texts. A text that is read as one is its written form, and it holds no line
break, so it is also the character string that the literal stands for. -/

namespace AsnLexis

namespace Layout

theorem join_split (separator : UInt8) (text : Bytes) :
    join [separator] (split separator text) = text := by
  induction text with
  | nil => rfl
  | cons b rest ih =>
      rw [split]
      cases parts : split separator rest with
      | nil =>
          rw [parts] at ih
          subst ih
          cases parts
      | cons part parts' =>
          rw [parts] at ih
          split_ifs with here
          · rw [join, ih, beq_iff_eq.1 here]
            · rfl
            · exact List.cons_ne_nil part parts'
          · cases parts' with
            | nil => exact congrArg (b :: ·) ih
            | cons next others => exact congrArg (b :: ·) ih

theorem split_ne_nil (separator : UInt8) (text : Bytes) : split separator text ≠ [] := by
  cases text with
  | nil => exact List.cons_ne_nil _ _
  | cons b rest =>
      rw [split]
      split_ifs
      · exact List.cons_ne_nil _ _
      · split <;> exact List.cons_ne_nil _ _

theorem split_of_not_mem {separator : UInt8} {name : Bytes} (free : separator ∉ name) :
    split separator name = [name] := by
  induction name with
  | nil => rfl
  | cons b rest ih =>
      obtain ⟨apart, later⟩ : separator ≠ b ∧ separator ∉ rest := by simpa using free
      rw [split, if_neg (by simpa using apart.symm), ih later]

theorem split_append (separator : UInt8) (first second : Bytes) :
    split separator (first ++ separator :: second)
      = split separator first ++ split separator second := by
  induction first with
  | nil => simp [split]
  | cons b rest ih =>
      rw [List.cons_append, split, split, ih]
      split_ifs
      · rfl
      · cases parts : split separator rest with
        | nil => exact absurd parts (split_ne_nil separator rest)
        | cons part others => rfl

end Layout

namespace OidIri

theorem label_of_parseArc {offset : Nat} {label : Bytes} {arc : Arc}
    (read : parseArc offset label = .ok arc) : arc.label = label := by
  unfold parseArc at read
  repeat' split at read
  all_goals cases read <;> rfl

theorem forall₂_of_parseArcs {offset : Nat} {labels : List Bytes} {arcs : List Arc}
    (read : parseArcs offset labels = .ok arcs) :
    List.Forall₂ (fun label arc => ∃ start, parseArc start label = .ok arc) labels arcs := by
  induction labels generalizing offset arcs with
  | nil =>
      cases read
      exact .nil
  | cons label labels ih =>
      rw [parseArcs] at read
      split at read
      next => cases read
      next arc first =>
        cases others : parseArcs (offset + label.length + 1) labels with
        | error failure =>
            rw [others] at read
            cases read
        | ok rest =>
            rw [others] at read
            cases read
            exact .cons ⟨offset, first⟩ (ih others)

theorem labels_of_parseArcs {offset : Nat} {labels : List Bytes} {arcs : List Arc}
    (read : parseArcs offset labels = .ok arcs) : arcs.map Arc.label = labels := by
  have each := forall₂_of_parseArcs read
  clear read
  induction each with
  | nil => rfl
  | cons first _ ih =>
      obtain ⟨start, first⟩ := first
      rw [List.map_cons, label_of_parseArc first, ih]

theorem parse_eq_ok {text : Bytes} {iri : OidIri} (read : parse text = .ok iri) :
    ∃ rest arcs, text = solidus :: rest ∧ iri = ⟨arcs, false⟩ ∧
      parseArcs 1 (Layout.split solidus rest) = .ok arcs := by
  unfold parse at read
  split at read
  next b rest =>
    split_ifs at read with first
    cases arcs : parseArcs 1 (Layout.split solidus rest) with
    | error failure =>
        rw [arcs] at read
        cases read
    | ok arcs' =>
        rw [arcs] at read
        cases read
        exact ⟨rest, arcs', by rw [beq_iff_eq.1 first], rfl, arcs⟩
  next => cases read

theorem text_of_parse {text : Bytes} {iri : OidIri} (read : parse text = .ok iri) :
    iri.text = text := by
  obtain ⟨rest, arcs, rfl, rfl, parts⟩ := parse_eq_ok read
  have labels := labels_of_parseArcs parts
  have some : arcs ≠ [] := by
    rintro rfl
    exact Layout.split_ne_nil solidus rest labels.symm
  simp [OidIri.text, labels, Layout.join_split, some]

def Permitted (text : Bytes) : Prop :=
  ∃ cs, text = Utf8.encode cs ∧ ∀ c ∈ cs, c = '/' ∨ isUnreserved c

theorem Permitted.append {first second : Bytes} (front : Permitted first)
    (back : Permitted second) : Permitted (first ++ second) := by
  obtain ⟨cs, rfl, inFront⟩ := front
  obtain ⟨ds, rfl, inBack⟩ := back
  refine ⟨cs ++ ds, (Utf8.encode_append cs ds).symm, ?_⟩
  intro c member
  exact (List.mem_append.1 member).elim (inFront c) (inBack c)

theorem permitted_solidus : Permitted [solidus] :=
  ⟨['/'], rfl, fun _ member => .inl (List.mem_singleton.1 member)⟩

theorem permitted_join {labels : List Bytes} (permitted : ∀ label ∈ labels, Permitted label) :
    Permitted (Layout.join [solidus] labels) := by
  induction labels with
  | nil => exact ⟨[], rfl, by simp⟩
  | cons label labels ih =>
      have first := permitted label List.mem_cons_self
      cases labels with
      | nil => exact first
      | cons next others =>
          have later := ih fun l member => permitted l (List.mem_cons_of_mem label member)
          exact (first.append permitted_solidus).append later

theorem scalars_of_firstReserved? {offset : Nat} {ps : List Piece}
    (free : firstReserved? offset ps = none) :
    ∃ cs : List Char, ps = cs.map Piece.scalar ∧ ∀ c ∈ cs, isUnreserved c := by
  induction ps generalizing offset with
  | nil => exact ⟨[], rfl, by simp⟩
  | cons piece ps ih =>
      rw [firstReserved?] at free
      split_ifs at free with unreserved
      obtain ⟨cs, rfl, others⟩ := ih free
      cases piece with
      | scalar c => exact ⟨c :: cs, rfl, List.forall_mem_cons.2 ⟨unreserved, others⟩⟩
      | stray b =>
          have reserved : isUnreserved (Piece.stray b).shown = false := by
            change isUnreserved '\uFFFD' = false
            decide
          rw [reserved] at unreserved
          cases unreserved

theorem scalars_of_parseArc {offset : Nat} {label : Bytes} {arc : Arc}
    (read : parseArc offset label = .ok arc) :
    ∃ cs, label = Utf8.encode cs ∧ ∀ c ∈ cs, isUnreserved c := by
  have free : firstReserved? offset (Utf8.pieces label) = none := by
    rw [parseArc] at read
    split at read
    next => cases read
    next =>
      split at read
      next => cases read
      next free => exact free
  obtain ⟨cs, scalars, unreserved⟩ := scalars_of_firstReserved? free
  refine ⟨cs, ?_, unreserved⟩
  rw [← Utf8.flatMap_bytes_pieces label, scalars, List.flatMap_map]
  rfl

theorem permitted_of_parseArc {offset : Nat} {label : Bytes} {arc : Arc}
    (read : parseArc offset label = .ok arc) : Permitted label := by
  obtain ⟨cs, encoded, unreserved⟩ := scalars_of_parseArc read
  exact ⟨cs, encoded, fun c member => .inr (unreserved c member)⟩

theorem permitted_of_parseArcs {offset : Nat} {labels : List Bytes} {arcs : List Arc}
    (read : parseArcs offset labels = .ok arcs) : ∀ label ∈ labels, Permitted label := by
  have each := forall₂_of_parseArcs read
  clear read
  induction each with
  | nil =>
      intro label member
      cases member
  | cons first _ ih =>
      obtain ⟨start, first⟩ := first
      exact List.forall_mem_cons.2 ⟨permitted_of_parseArc first, ih⟩

theorem permitted_of_split {offset : Nat} {text : Bytes} {arcs : List Arc}
    (parts : parseArcs offset (Layout.split solidus text) = .ok arcs) : Permitted text := by
  have labels := permitted_join (permitted_of_parseArcs parts)
  rwa [Layout.join_split] at labels

theorem permitted_of_parse {text : Bytes} {iri : OidIri} (read : parse text = .ok iri) :
    Permitted text := by
  obtain ⟨rest, arcs, rfl, _, parts⟩ := parse_eq_ok read
  exact permitted_solidus.append (permitted_of_split parts)

theorem not_isLineBreak {c : Char} (permitted : c = '/' ∨ isUnreserved c) :
    isLineBreak c = false := by
  by_contra breaks
  have named : c = '\n' ∨ c = '\x0B' ∨ c = '\x0C' ∨ c = '\r' := by
    rw [Bool.not_eq_false, isLineBreak] at breaks
    simpa [or_assoc] using breaks
  rcases named with rfl | rfl | rfl | rfl <;> revert permitted <;> decide

end OidIri

theorem Literal.characterString_of_permitted {raw : Bytes}
    (permitted : OidIri.Permitted (contents raw)) : characterString raw = contents raw := by
  obtain ⟨cs, encoded, permitted⟩ := permitted
  rw [characterString, encoded, Utf8.decodeLossy_encode]
  rw [if_neg]
  rw [List.any_eq_true]
  rintro ⟨c, member, breaks⟩
  rw [OidIri.not_isLineBreak (permitted c member)] at breaks
  cases breaks

theorem Literal.characterString_of_parse {raw : Bytes} {iri : OidIri}
    (read : OidIri.parse (contents raw) = .ok iri) : characterString raw = contents raw :=
  characterString_of_permitted (OidIri.permitted_of_parse read)

theorem present_iriText (raw : Bytes) :
    present (Tokenized.iriText raw)
      = if (OidIri.parse (Literal.contents raw)).toOption.isSome
        then some (Literal.characterString raw) else none := by
  rw [Tokenized.iriText]
  cases read : OidIri.parse (Literal.contents raw) with
  | error failure => rfl
  | ok iri =>
      obtain ⟨rest, _, text, _⟩ := OidIri.parse_eq_ok read
      have written : iri.text = OidIri.solidus :: rest := (OidIri.text_of_parse read).trans text
      simp only [Literal.characterString_of_parse read, written, text]
      rfl

end AsnLexis
