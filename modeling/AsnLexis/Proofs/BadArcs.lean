import AsnLexis.Proofs.Arcs
import Mathlib

/-! Where a text stops being an OID-IRI. The flaw that is reported is that of the first part that is
no label, at the offset where the part shows it. An absolute text is read as the relative one behind
its solidus. -/

namespace AsnLexis

namespace OidIri

/-- The flaw of a part that is no label, and how far into the part it is. Hyphens and zeros count
only where all characters are unreserved. -/
inductive Faulty : Bytes → Flaw → Nat → Prop
  | empty : Faulty [] .emptyArc 0
  | reserved {cs : List Char} {c : Char} {rest : Bytes} (front : ∀ d ∈ cs, Unreserved d)
      (here : ¬ Unreserved c) :
      Faulty (Utf8.encode cs ++ (Utf8.encodeChar c ++ rest)) (.notAllowed c) (Utf8.encode cs).length
  | malformed {cs : List Char} {b : UInt8} {rest : Bytes} (front : ∀ d ∈ cs, Unreserved d)
      (here : ∀ c, ¬ Utf8.encodeChar c <+: b :: rest) :
      Faulty (Utf8.encode cs ++ b :: rest) (.notAllowed '\uFFFD') (Utf8.encode cs).length
  | leadingZero {cs : List Char} (digits : ∀ c ∈ cs, isDigit c) (more : cs ≠ []) :
      Faulty (Utf8.encode ('0' :: cs)) .leadingZero 0
  | leadingHyphen {cs : List Char} (unreserved : ∀ c ∈ cs, Unreserved c) :
      Faulty (Utf8.encode ('-' :: cs)) .leadingHyphen 0
  | trailingHyphen {first : Char} {cs : List Char} (unreserved : ∀ c ∈ first :: cs, Unreserved c)
      (front : first ≠ '-') :
      Faulty (Utf8.encode (first :: cs ++ ['-'])) .trailingHyphen (Utf8.encode (first :: cs)).length

/-- The flaw of the first part that is no label, and how far it is into the parts with a solidus
between two. -/
inductive FirstFault : List Bytes → Flaw → Nat → Prop
  | here {label : Bytes} {rest : List Bytes} {flaw : Flaw} {n : Nat}
      (faulty : Faulty label flaw n) : FirstFault (label :: rest) flaw n
  | later {label : Bytes} {rest : List Bytes} {integer : Bool} {flaw : Flaw} {n : Nat}
      (form : IsLabel label integer) (fault : FirstFault rest flaw n) :
      FirstFault (label :: rest) flaw (label.length + 1 + n)

def lead (parts : List Bytes) : Bytes := parts.flatMap (· ++ [solidus])

theorem Faulty.le_length {label : Bytes} {flaw : Flaw} {n : Nat} (faulty : Faulty label flaw n) :
    n ≤ label.length := by
  cases faulty <;> simp

theorem unreserved_hyphen : Unreserved '-' := .inr (.inr (.inl List.mem_cons_self))

theorem not_unreserved_replacement : ¬ Unreserved '\uFFFD' := by
  rw [← isUnreserved_iff]
  decide

theorem firstReserved?_append {cs : List Char} {rest : List Piece} (front : ∀ c ∈ cs, Unreserved c)
    {piece : Piece} (here : ¬ Unreserved piece.shown) (offset : Nat) :
    firstReserved? offset (cs.map Piece.scalar ++ piece :: rest)
      = some ⟨offset + (Utf8.encode cs).length, .notAllowed piece.shown⟩ := by
  induction cs generalizing offset with
  | nil =>
      rw [List.map_nil, List.nil_append, firstReserved?, if_neg (isUnreserved_iff.not.2 here)]
      rfl
  | cons c cs ih =>
      obtain ⟨first, others⟩ := List.forall_mem_cons.1 front
      have free : isUnreserved (Piece.scalar c).shown := isUnreserved_iff.2 first
      rw [List.map_cons, List.cons_append, firstReserved?, if_pos free, ih others, Utf8.encode_cons,
        List.length_append, Utf8.length_encodeChar, Nat.add_assoc]
      rfl

theorem exists_reserved {offset : Nat} {ps : List Piece} {failure : Failure}
    (found : firstReserved? offset ps = some failure) :
    ∃ cs piece rest, ps = cs.map Piece.scalar ++ piece :: rest ∧ (∀ c ∈ cs, Unreserved c) ∧
      ¬ Unreserved piece.shown ∧
      failure = ⟨offset + (Utf8.encode cs).length, .notAllowed piece.shown⟩ := by
  induction ps generalizing offset with
  | nil => cases found
  | cons piece ps ih =>
      rw [firstReserved?] at found
      split_ifs at found with free
      · cases piece with
        | stray b => exact absurd (isUnreserved_iff.1 free) not_unreserved_replacement
        | scalar c =>
            obtain ⟨cs, next, rest, rfl, front, here, rfl⟩ := ih found
            refine ⟨c :: cs, next, rest, rfl, ?_, here, ?_⟩
            · exact List.forall_mem_cons.2 ⟨isUnreserved_iff.1 free, front⟩
            · rw [Utf8.encode_cons, List.length_append, Utf8.length_encodeChar, Nat.add_assoc]
              rfl
      · cases found
        exact ⟨[], piece, ps, rfl, List.forall_mem_nil _, isUnreserved_iff.not.1 free, rfl⟩

theorem parseArc_of_reserved {offset : Nat} {label : Bytes} {failure : Failure}
    (found : firstReserved? offset (Utf8.pieces label) = some failure) :
    parseArc offset label = .error failure := by
  cases label with
  | nil =>
      rw [Utf8.pieces_nil] at found
      cases found
  | cons b rest =>
      rw [parseArc, found]
      rfl

theorem pieces_stray {b : UInt8} {rest : Bytes}
    (here : ∀ c, ¬ Utf8.encodeChar c <+: b :: rest) :
    Utf8.pieces (b :: rest) = .stray b :: Utf8.pieces rest := by
  rw [Utf8.pieces]
  split
  next c more found => exact absurd ⟨more, (Utf8.eq_encodeChar_of_front? found).symm⟩ (here c)
  next => rfl

theorem pieces_scalar (c : Char) (rest : Bytes) :
    Utf8.pieces (Utf8.encodeChar c ++ rest) = .scalar c :: Utf8.pieces rest := by
  have one := Utf8.pieces_encode_append [c] rest
  rwa [Utf8.encode_cons, Utf8.encode_nil, List.append_nil] at one

theorem faulty_of_pieces {label : Bytes} {cs : List Char} {piece : Piece} {rest : List Piece}
    (pieces : Utf8.pieces label = cs.map Piece.scalar ++ piece :: rest)
    (front : ∀ c ∈ cs, Unreserved c) (here : ¬ Unreserved piece.shown) :
    Faulty label (.notAllowed piece.shown) (Utf8.encode cs).length := by
  have whole : label = Utf8.encode cs ++ (piece.bytes ++ rest.flatMap Piece.bytes) := by
    rw [← Utf8.flatMap_bytes_pieces label, pieces, List.flatMap_append, List.flatMap_map]
    rfl
  cases piece with
  | scalar c =>
      rw [whole]
      exact .reserved front here
  | stray b =>
      rw [whole]
      refine .malformed front ?_
      rintro c ⟨more, begins⟩
      change Utf8.encodeChar c ++ more = [b] ++ rest.flatMap Piece.bytes at begins
      rw [whole, Piece.bytes, ← begins, Utf8.pieces_encode_append, pieces_scalar] at pieces
      cases List.append_cancel_left pieces

theorem Faulty.parseArc {label : Bytes} {flaw : Flaw} {n : Nat} (faulty : Faulty label flaw n)
    (offset : Nat) : parseArc offset label = .error ⟨offset + n, flaw⟩ := by
  cases faulty with
  | empty => rfl
  | @reserved cs c rest front here =>
      refine parseArc_of_reserved ?_
      rw [Utf8.pieces_encode_append, pieces_scalar]
      have reserved : ¬ Unreserved (Piece.scalar c).shown := here
      exact firstReserved?_append front reserved offset
  | @malformed cs b rest front here =>
      refine parseArc_of_reserved ?_
      rw [Utf8.pieces_encode_append, pieces_stray here]
      have reserved : ¬ Unreserved (Piece.stray b).shown := not_unreserved_replacement
      exact firstReserved?_append front reserved offset
  | @leadingZero cs digits more =>
      have all : ∀ c ∈ '0' :: cs, isDigit c := List.forall_mem_cons.2 ⟨by decide, digits⟩
      have unreserved c (member : c ∈ '0' :: cs) := unreserved_of_isDigit (all c member)
      have some := List.length_pos_of_ne_nil (Utf8.encode_eq_nil.not.2 more)
      have long : 1 < (Utf8.encode ('0' :: cs)).length := by
        rw [Utf8.encode_cons, List.length_append]
        have one : (Utf8.encodeChar '0').length = 1 := rfl
        omega
      rw [parseArc_encode (List.cons_ne_nil _ _) unreserved, if_pos all, if_pos ⟨long, rfl⟩]
      rfl
  | @leadingHyphen cs unreserved =>
      have all := List.forall_mem_cons.2 ⟨unreserved_hyphen, unreserved⟩
      have mixed : ¬ ∀ c ∈ '-' :: cs, isDigit c := fun digits =>
        absurd (digits '-' List.mem_cons_self) (by decide)
      rw [parseArc_encode (List.cons_ne_nil _ _) all, if_neg mixed, if_pos List.head?_cons]
      rfl
  | @trailingHyphen first cs unreserved front =>
      have all : ∀ c ∈ first :: cs ++ ['-'], Unreserved c :=
        List.forall_mem_append.2 ⟨unreserved, List.forall_mem_singleton.2 unreserved_hyphen⟩
      have mixed : ¬ ∀ c ∈ first :: cs ++ ['-'], isDigit c := fun digits =>
        absurd (digits '-' (by simp)) (by decide)
      have apart : (first :: cs ++ ['-']).head? ≠ some '-' := fun same =>
        front (Option.some.inj same)
      have last : (first :: cs ++ ['-']).getLast? = some '-' := List.getLast?_concat
      have one : (Utf8.encode ['-']).length = 1 := rfl
      rw [parseArc_encode (by simp) all, if_neg mixed, if_neg apart, if_pos last,
        Utf8.encode_append, List.length_append, one]
      rfl

theorem parseArc_eq_error_iff {offset : Nat} {label : Bytes} {failure : Failure} :
    parseArc offset label = .error failure ↔
      ∃ n, Faulty label failure.flaw n ∧ failure.offset = offset + n := by
  constructor
  · intro refused
    -- A reserved character is looked for first; without one the label is text, and its ends count.
    cases found : firstReserved? offset (Utf8.pieces label) with
    | some other =>
        obtain ⟨cs, piece, rest, pieces, front, here, rfl⟩ := exists_reserved found
        rw [parseArc_of_reserved found] at refused
        cases refused
        exact ⟨_, faulty_of_pieces pieces front here, rfl⟩
    | none =>
        obtain ⟨cs, scalars, free⟩ := scalars_of_firstReserved? found
        have unreserved c (member : c ∈ cs) := isUnreserved_iff.1 (free c member)
        have encoded : label = Utf8.encode cs := by
          rw [← Utf8.flatMap_bytes_pieces label, scalars, List.flatMap_map]
          rfl
        subst encoded
        cases cs with
        | nil =>
            cases refused
            exact ⟨0, .empty, rfl⟩
        | cons first cs =>
            have later := List.forall_mem_of_forall_mem_cons unreserved
            rw [parseArc_encode (List.cons_ne_nil _ _) unreserved] at refused
            split_ifs at refused with digits zero front back
            · cases refused
              obtain ⟨long, same⟩ := zero
              obtain rfl : first = '0' := Option.some.inj same
              refine ⟨0, .leadingZero (List.forall_mem_of_forall_mem_cons digits) ?_, rfl⟩
              rintro rfl
              exact absurd long (by decide +kernel)
            · cases refused
              obtain rfl : first = '-' := Option.some.inj front
              exact ⟨0, .leadingHyphen later, rfl⟩
            · cases refused
              rcases List.eq_nil_or_concat cs with rfl | ⟨cs, last, rfl⟩
              · exact absurd back front
              · rw [List.concat_eq_append, ← List.cons_append] at *
                obtain rfl : last = '-' := Option.some.inj (List.getLast?_concat.symm.trans back)
                refine ⟨_, .trailingHyphen (List.forall_mem_append.1 unreserved).1 ?_, ?_⟩
                · rintro rfl
                  exact front rfl
                · have one : (Utf8.encode ['-']).length = 1 := rfl
                  rw [Utf8.encode_append, List.length_append, one]
                  rfl
  · rintro ⟨n, faulty, place⟩
    rw [faulty.parseArc, ← place]

theorem Faulty.not_isLabel {label : Bytes} {flaw : Flaw} {n : Nat} (faulty : Faulty label flaw n)
    {integer : Bool} : ¬ IsLabel label integer := by
  intro form
  cases (form.parseArc 0).symm.trans (faulty.parseArc 0)

theorem FirstFault.parseArcs {parts : List Bytes} {flaw : Flaw} {n : Nat}
    (fault : FirstFault parts flaw n) (offset : Nat) :
    parseArcs offset parts = .error ⟨offset + n, flaw⟩ := by
  induction fault generalizing offset with
  | here faulty => rw [OidIri.parseArcs, faulty.parseArc]
  | later form _ ih =>
      rw [OidIri.parseArcs, form.parseArc]
      simp only [ih, Except.map, Nat.add_assoc]

theorem parseArcs_eq_error_iff {offset : Nat} {parts : List Bytes} {failure : Failure} :
    parseArcs offset parts = .error failure ↔
      ∃ n, FirstFault parts failure.flaw n ∧ failure.offset = offset + n := by
  constructor
  · intro refused
    induction parts generalizing offset with
    | nil => cases refused
    | cons label parts ih =>
        rw [parseArcs] at refused
        cases first : parseArc offset label with
        | error own =>
            rw [first] at refused
            cases refused
            obtain ⟨n, faulty, place⟩ := parseArc_eq_error_iff.1 first
            exact ⟨n, .here faulty, place⟩
        | ok arc =>
            rw [first] at refused
            obtain ⟨_, form⟩ := parseArc_eq_ok_iff.1 first
            cases others : parseArcs (offset + label.length + 1) parts with
            | ok arcs =>
                rw [others] at refused
                cases refused
            | error other =>
                rw [others] at refused
                cases refused
                obtain ⟨n, fault, place⟩ := ih others
                exact ⟨_, .later form fault, by omega⟩
  · rintro ⟨n, fault, place⟩
    rw [fault.parseArcs, ← place]

theorem FirstFault.layout {parts : List Bytes} {flaw : Flaw} {n : Nat}
    (fault : FirstFault parts flaw n) :
    ∃ front label back k, parts = front ++ label :: back ∧
      (∀ part ∈ front, ∃ integer, IsLabel part integer) ∧ Faulty label flaw k ∧
      n = (lead front).length + k ∧
      ∃ after, Layout.join [solidus] parts = lead front ++ (label ++ after) := by
  induction fault with
  | @here label rest flaw n faulty =>
      refine ⟨[], label, rest, n, rfl, List.forall_mem_nil _, faulty, (Nat.zero_add n).symm, ?_⟩
      cases rest with
      | nil => exact ⟨[], by simp [Layout.join, lead]⟩
      | cons next rest => exact ⟨solidus :: Layout.join [solidus] (next :: rest), by
          simp [Layout.join, lead]⟩
  | @later label rest integer flaw n form _ ih =>
      obtain ⟨front, bad, back, k, rfl, good, faulty, rfl, after, text⟩ := ih
      refine ⟨label :: front, bad, back, k, rfl, List.forall_mem_cons.2 ⟨⟨integer, form⟩, good⟩,
        faulty, by simp [lead]; omega, after, ?_⟩
      have some : front ++ bad :: back ≠ [] := by simp
      obtain ⟨next, others, split⟩ := List.exists_cons_of_ne_nil some
      rw [split] at text ⊢
      simp [Layout.join, lead, text]

theorem parse_solidus {text : Bytes} (relative : text.head? ≠ some solidus) :
    parse (solidus :: text) =
      match parseRelative text with
      | .ok iri => .ok ⟨iri.arcs, false⟩
      | .error failure => .error ⟨failure.offset + 1, failure.flaw⟩ := by
  have apart : ¬ (text.head? == some solidus) := by simpa using relative
  rw [parse, parseRelative, if_neg apart]
  cases read : parseArcs 0 (Layout.split solidus text) with
  | ok arcs =>
      have same : parseArcs 1 (Layout.split solidus text) = .ok arcs :=
        parseArcs_eq_ok_iff.2 (parseArcs_eq_ok_iff.1 read)
      rw [same]
      rfl
  | error failure =>
      obtain ⟨n, fault, place⟩ := parseArcs_eq_error_iff.1 read
      have next : 1 + n = failure.offset + 1 := by omega
      rw [fault.parseArcs, next]
      rfl

theorem parse_eq_error_iff {rest : Bytes} {failure : Failure} :
    parse (solidus :: rest) = .error failure ↔
      ∃ n, FirstFault (Layout.split solidus rest) failure.flaw n ∧ failure.offset = n + 1 := by
  simp only [Nat.add_comm _ 1]
  rw [← parseArcs_eq_error_iff, parse, if_pos (beq_self_eq_true solidus)]
  cases parseArcs 1 (Layout.split solidus rest) <;> simp [Except.map]

theorem parseRelative_eq_error_iff {text : Bytes} (relative : text.head? ≠ some solidus)
    {failure : Failure} :
    parseRelative text = .error failure ↔
      FirstFault (Layout.split solidus text) failure.flaw failure.offset := by
  have apart : ¬ (text.head? == some solidus) := by simpa using relative
  have refused : parseArcs 0 (Layout.split solidus text) = .error failure ↔
      FirstFault (Layout.split solidus text) failure.flaw failure.offset := by
    rw [parseArcs_eq_error_iff]
    simp only [Nat.zero_add, exists_eq_right']
  rw [← refused, parseRelative, if_neg apart]
  cases parseArcs 0 (Layout.split solidus text) <;> simp [Except.map]

/-- Behind the check of its solidus, a text is refused exactly if one of its parts is faulty. The
first such part is reported, all parts in front of it being labels, with its own flaw and at the
byte that shows it. An absolute text differs from the relative one behind its solidus in the
offsets only, by one. -/
theorem flaws_located :
    (∀ rest failure, parse (solidus :: rest) = .error failure ↔
      ∃ n, FirstFault (Layout.split solidus rest) failure.flaw n ∧ failure.offset = n + 1) ∧
    (∀ text failure, text.head? ≠ some solidus → (parseRelative text = .error failure ↔
      FirstFault (Layout.split solidus text) failure.flaw failure.offset)) ∧
    (∀ text flaw n, FirstFault (Layout.split solidus text) flaw n →
      n ≤ text.length ∧ ∃ front label back k, Layout.split solidus text = front ++ label :: back ∧
        (∀ part ∈ front, ∃ integer, IsLabel part integer) ∧ (∀ integer, ¬ IsLabel label integer) ∧
        Faulty label flaw k ∧ (∃ after, text = lead front ++ (label ++ after)) ∧
        n = (lead front).length + k) ∧
    (∀ text, text.head? ≠ some solidus → parse (solidus :: text) =
      match parseRelative text with
      | .ok iri => .ok ⟨iri.arcs, false⟩
      | .error failure => .error ⟨failure.offset + 1, failure.flaw⟩) := by
  refine ⟨fun _ _ => parse_eq_error_iff, fun _ _ apart => parseRelative_eq_error_iff apart, ?_,
    fun _ => parse_solidus⟩
  intro text flaw n fault
  obtain ⟨front, label, back, k, parts, good, faulty, rfl, after, whole⟩ := fault.layout
  rw [Layout.join_split] at whole
  have inside := faulty.le_length
  have length := congrArg List.length whole
  rw [List.length_append, List.length_append] at length
  exact ⟨by omega, front, label, back, k, parts, good, fun _ => faulty.not_isLabel, faulty,
    ⟨after, whole⟩, rfl⟩

/-- Of a good part and two faulty ones the second is reported, and in it the stray byte behind the
leading zero. -/
theorem flaws_located_stray :
    let text := Utf8.encode ['é', '/', '0'] ++ 0xFF :: Utf8.encode ['-', '/', '-']
    text.head? ≠ some solidus ∧ parseRelative text = .error ⟨4, .notAllowed '\uFFFD'⟩ ∧
      parse (solidus :: text) = .error ⟨5, .notAllowed '\uFFFD'⟩ := by
  intro text
  obtain ⟨_, reads, _, shifted⟩ := flaws_located
  have apart : text.head? ≠ some solidus := by decide +kernel
  have parts : Layout.split solidus text =
      [Utf8.encode ['é'], Utf8.encode ['0'] ++ 0xFF :: Utf8.encode ['-'], Utf8.encode ['-']] := by
    decide +kernel
  have form : IsLabel (Utf8.encode ['é']) false :=
    .other (List.forall_mem_singleton.2 (isUnreserved_iff.1 (by decide))) (by simp [isDigit])
      (by simp) (by simp)
  have faulty :
      Faulty (Utf8.encode ['0'] ++ 0xFF :: Utf8.encode ['-']) (.notAllowed '\uFFFD') 1 := by
    refine .malformed (List.forall_mem_singleton.2 (isUnreserved_iff.1 (by decide))) ?_
    rintro c ⟨rest, begins⟩
    have front := Utf8.front?_encodeChar_append c rest
    rw [begins] at front
    cases front
  have refused : parseRelative text = .error ⟨4, .notAllowed '\uFFFD'⟩ := by
    refine (reads text _ apart).2 ?_
    rw [parts]
    exact .later form (.here faulty)
  exact ⟨apart, refused, by rw [shifted text apart, refused]⟩

end OidIri

end AsnLexis
