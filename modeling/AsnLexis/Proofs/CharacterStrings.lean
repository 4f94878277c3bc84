import AsnLexis.Proofs.Arcs
import AsnLexis.Proofs.Trivia
import Mathlib

/-! Character strings of literals that run over several lines. A text falls into runs of whitespace
and of all else; the runs with a line break in them are left out, and nothing else is. -/

namespace AsnLexis

namespace Literal

/-- The longest pieces of a text that are whitespace throughout or have none. -/
def runs (cs : List Char) : List (List Char) :=
  cs.splitBy fun c d => isWhitespace c == isWhitespace d

/-- A text without its runs that have a line break in them. -/
def unbroken (cs : List Char) : List Char := ((runs cs).filter (!·.any isLineBreak)).flatten

theorem isWhitespace_of_isLineBreak {c : Char} (breaks : isLineBreak c) : isWhitespace c := by
  simp [isWhitespace, breaks]

theorem isWhitespace_of_isSpacing {c : Char} (spacing : isSpacing c) : isWhitespace c := by
  simp [isWhitespace, spacing]

theorem not_isLineBreak_of_isSpacing {c : Char} (spacing : isSpacing c) : ¬ isLineBreak c := by
  have named : c = ' ' ∨ c = '\t' ∨ c = '\u00A0' := by
    simpa [isSpacing, or_assoc] using spacing
  rcases named with rfl | rfl | rfl <;> decide

theorem isWhitespace_eq_of_isChain {c : Char} {run : List Char}
    (chain : (c :: run).IsChain fun c d => isWhitespace c == isWhitespace d) :
    ∀ d ∈ run, isWhitespace d = isWhitespace c := by
  induction run generalizing c with
  | nil => simp
  | cons d run ih =>
      obtain ⟨same, later⟩ := List.isChain_cons_cons.1 chain
      rw [beq_iff_eq] at same
      exact List.forall_mem_cons.2 ⟨same.symm, fun e member => (ih later e member).trans same.symm⟩

theorem isWhitespace_of_mem_runs {cs run : List Char} (member : run ∈ runs cs)
    (breaks : ∃ c ∈ run, isLineBreak c) : ∀ c ∈ run, isWhitespace c := by
  have chain := List.isChain_of_mem_splitBy member
  obtain ⟨b, inside, isBreak⟩ := breaks
  have white := isWhitespace_of_isLineBreak isBreak
  cases run with
  | nil => simp
  | cons c run =>
      have same : ∀ d ∈ c :: run, isWhitespace d = isWhitespace c :=
        List.forall_mem_cons.2 ⟨rfl, isWhitespace_eq_of_isChain chain⟩
      intro d here
      rw [same d here, ← same b inside, white]

theorem unbroken_append {front back : List Char}
    (meet : ∀ c ∈ front.getLast?, ∀ d ∈ back.head?, isWhitespace c ≠ isWhitespace d) :
    unbroken (front ++ back) = unbroken front ++ unbroken back := by
  have parts : runs (front ++ back) = runs front ++ runs back :=
    List.splitBy_append fun c last d first => by simpa using meet c last d first
  rw [unbroken, parts, List.filter_append, List.flatten_append, unbroken, unbroken]

theorem unbroken_eq_self {cs : List Char} (line : ∀ c ∈ cs, ¬ isLineBreak c) : unbroken cs = cs := by
  have whole : (runs cs).flatten = cs := List.flatten_splitBy _ cs
  have kept : (runs cs).filter (!·.any isLineBreak) = runs cs := by
    rw [List.filter_eq_self]
    intro run member
    have inside : ∀ c ∈ run, c ∈ cs := fun c here => whole ▸ List.mem_flatten_of_mem member here
    simpa using fun c here => line c (inside c here)
  rw [unbroken, kept, whole]

theorem unbroken_eq_nil {cs : List Char} (white : ∀ c ∈ cs, isWhitespace c)
    (breaks : ∃ c ∈ cs, isLineBreak c) : unbroken cs = [] := by
  obtain ⟨b, inside, isBreak⟩ := breaks
  have chain : cs.IsChain fun c d => isWhitespace c == isWhitespace d := by
    refine List.Pairwise.isChain (List.pairwise_of_forall_mem_list fun c here d there => ?_)
    rw [white c here, white d there]
    rfl
  have whole : runs cs = [cs] := List.splitBy_of_isChain (List.ne_nil_of_mem inside) chain
  have left : cs.any isLineBreak := List.any_eq_true.2 ⟨b, inside, isBreak⟩
  rw [unbroken, whole, List.filter_singleton, left]
  rfl

theorem unbroken_cons {c : Char} (visible : ¬ isWhitespace c) (cs : List Char) :
    unbroken (c :: cs) = c :: unbroken cs := by
  -- The rest of the run that `c` begins, and what stands behind it.
  let word := cs.takeWhile (!isWhitespace ·)
  let after := cs.dropWhile (!isWhitespace ·)
  have split : cs = word ++ after := List.takeWhile_append_dropWhile.symm
  have dark : ∀ d ∈ c :: word, ¬ isWhitespace d :=
    List.forall_mem_cons.2 ⟨visible, fun d member => by simpa using List.mem_takeWhile_imp member⟩
  have line : ∀ d ∈ c :: word, ¬ isLineBreak d := fun d member breaks =>
    dark d member (isWhitespace_of_isLineBreak breaks)
  have white : ∀ d ∈ after.head?, isWhitespace d := by
    intro d first
    have stop := List.head?_dropWhile_not (!isWhitespace ·) cs
    rw [show (cs.dropWhile (!isWhitespace ·)).head? = some d from first] at stop
    simpa using stop
  have meet {front : List Char} (inside : ∀ d ∈ front, ¬ isWhitespace d) :
      ∀ d ∈ front.getLast?, ∀ e ∈ after.head?, isWhitespace d ≠ isWhitespace e := by
    intro d last e first same
    exact inside d (List.mem_of_getLast? last) (same.trans (white e first))
  rw [split, ← List.cons_append, unbroken_append (meet dark), unbroken_eq_self line,
    unbroken_append (meet (List.forall_mem_cons.1 dark).2),
    unbroken_eq_self (List.forall_mem_cons.1 line).2]
  rfl

theorem takeWhile_dropWhile_eq_nil (q : Char → Bool) (cs : List Char) :
    (cs.dropWhile q).takeWhile q = [] := by
  have split := List.takeWhile_append_dropWhile (p := q) (l := cs.dropWhile q)
  rw [List.dropWhile_idempotent] at split
  exact List.append_left_eq_self.1 split

theorem unbroken_break {spaces : List Char} (spacing : ∀ d ∈ spaces, isSpacing d) {c : Char}
    (breaks : isLineBreak c) (rest : List Char) :
    unbroken (spaces ++ c :: rest) = unbroken (rest.dropWhile isWhitespace) := by
  have white : ∀ d ∈ spaces ++ c :: rest.takeWhile isWhitespace, isWhitespace d := by
    intro d member
    rcases List.mem_append.1 member with before | here
    · exact isWhitespace_of_isSpacing (spacing d before)
    · rcases List.mem_cons.1 here with rfl | behind
      · exact isWhitespace_of_isLineBreak breaks
      · exact List.mem_takeWhile_imp behind
  have meet : ∀ d ∈ (spaces ++ c :: rest.takeWhile isWhitespace).getLast?,
      ∀ e ∈ (rest.dropWhile isWhitespace).head?, isWhitespace d ≠ isWhitespace e := by
    intro d last e first same
    have stop := List.head?_dropWhile_not isWhitespace rest
    rw [Option.mem_def.1 first] at stop
    simp [← same, white d (List.mem_of_getLast? last)] at stop
  have split : spaces ++ c :: rest
      = (spaces ++ c :: rest.takeWhile isWhitespace) ++ rest.dropWhile isWhitespace := by simp
  rw [split, unbroken_append meet, unbroken_eq_nil white ⟨c, by simp, breaks⟩, List.nil_append]

theorem unbroken_spacing_append {spaces after : List Char} (spacing : ∀ c ∈ spaces, isSpacing c)
    (back : ∀ c ∈ after.head?, ¬ isWhitespace c) :
    unbroken (spaces ++ after) = spaces ++ unbroken after := by
  have ends : ∀ c ∈ spaces.getLast?, ∀ d ∈ after.head?, isWhitespace c ≠ isWhitespace d := by
    intro c last d first same
    have white := isWhitespace_of_isSpacing (spacing c (List.mem_of_getLast? last))
    exact back d first (same.symm.trans white)
  rw [unbroken_append ends,
    unbroken_eq_self fun c member => not_isLineBreak_of_isSpacing (spacing c member)]

/-- A text is joined as its runs say. What was kept in front of it ends in spacing that is left out
if a line break follows, so this spacing belongs to the text. -/
theorem joinLines_eq (kept cs : List Char) :
    joinLines kept cs = (kept.dropWhile isSpacing).reverse
      ++ unbroken ((kept.takeWhile isSpacing).reverse ++ cs) := by
  have plain (kept : List Char) : ∀ d ∈ (kept.takeWhile isSpacing).reverse, isSpacing d :=
    fun d member => List.mem_takeWhile_imp (List.mem_reverse.1 member)
  -- Whether the spacing at the end of `kept` stays is settled only by the next scalar that is none.
  fun_induction joinLines kept cs with
  | case1 kept =>
      have line : ∀ c ∈ (kept.takeWhile isSpacing).reverse, ¬ isLineBreak c := fun c member =>
        not_isLineBreak_of_isSpacing (plain kept c member)
      rw [List.append_nil, unbroken_eq_self line, ← List.reverse_append,
        List.takeWhile_append_dropWhile]
  | case2 kept c rest breaks ih =>
      rw [ih, unbroken_break (plain kept) breaks, List.dropWhile_idempotent,
        takeWhile_dropWhile_eq_nil]
      rfl
  | case3 kept c rest inLine ih =>
      rw [ih]
      by_cases spacing : isSpacing c
      · simp [spacing]
      · have visible : ¬ isWhitespace c := by simpa [isWhitespace, spacing] using inLine
        have front : ∀ d ∈ (c :: rest).head?, ¬ isWhitespace d := by
          rintro _ ⟨⟩
          exact visible
        rw [unbroken_spacing_append (plain kept) front, unbroken_cons visible,
          List.dropWhile_cons_of_neg spacing, List.takeWhile_cons_of_neg spacing,
          ← List.append_assoc, ← List.reverse_append, List.takeWhile_append_dropWhile]
        simp

theorem joinLines_nil (cs : List Char) : joinLines [] cs = unbroken cs := joinLines_eq [] cs

theorem characterString_eq {raw : Bytes} {cs : List Char} (encoded : contents raw = Utf8.encode cs) :
    characterString raw = Utf8.encode (unbroken cs) := by
  rw [characterString, encoded, Utf8.decodeLossy_encode]
  split_ifs with breaks
  · rw [joinLines_nil]
  · rw [unbroken_eq_self]
    simpa using breaks

theorem text_eq_characterString {raw : Bytes} {iri : OidIri}
    (read : OidIri.parse (contents raw) = .ok iri ∨ OidIri.parseRelative (contents raw) = .ok iri) :
    iri.text = characterString raw := by
  have permitted : OidIri.Permitted (contents raw) := by
    rcases read with absolute | relative
    · exact OidIri.permitted_of_parse absolute
    · have grammar := (OidIri.parseRelative_eq_ok_iff.1 relative).2
      have parts : OidIri.parseArcs 0 (Layout.split OidIri.solidus (contents raw)) = .ok iri.arcs :=
        OidIri.parseArcs_split.2 grammar
      exact OidIri.permitted_of_split parts
  rw [characterString_of_permitted permitted, (OidIri.written_of_parse read).1]

/-- What the character string of a literal is, `cs` being the text between its quotes: this text
without its longest runs of whitespace that have a line break in them. -/
structure JoinsLines (raw : Bytes) (cs : List Char) : Prop where
  value : characterString raw
    = Utf8.encode ((runs cs).filter fun run => !run.any isLineBreak).flatten
  white : ∀ run ∈ runs cs, (∃ c ∈ run, isLineBreak c) → ∀ c ∈ run, isWhitespace c
  oneLine : ∀ c ∈ Utf8.decodeLossy (characterString raw), ¬ isLineBreak c
  spacing : ∀ before spaces after, cs = before ++ (spaces ++ after) → spaces ≠ [] →
    (∀ c ∈ spaces, isSpacing c) → (∀ c ∈ before.getLast?, ¬ isWhitespace c) →
    (∀ c ∈ after.head?, ¬ isWhitespace c) →
    characterString raw
      = Utf8.encode (unbroken before) ++ (Utf8.encode spaces ++ Utf8.encode (unbroken after))
  general : characterString raw = Utf8.encode (joinLines [] cs)
  iri : ∀ iri : OidIri,
    OidIri.parse (contents raw) = .ok iri ∨ OidIri.parseRelative (contents raw) = .ok iri →
      iri.text = characterString raw

theorem not_isLineBreak_of_mem_unbroken {cs : List Char} : ∀ c ∈ unbroken cs, ¬ isLineBreak c := by
  intro c member breaks
  obtain ⟨run, kept, inside⟩ := List.mem_flatten.1 member
  have clean := (List.mem_filter.1 kept).2
  rw [Bool.not_eq_true', List.any_eq_false] at clean
  exact clean c inside breaks

theorem unbroken_spacing {before spaces after : List Char} (present : spaces ≠ [])
    (spacing : ∀ c ∈ spaces, isSpacing c) (front : ∀ c ∈ before.getLast?, ¬ isWhitespace c)
    (back : ∀ c ∈ after.head?, ¬ isWhitespace c) :
    unbroken (before ++ (spaces ++ after)) = unbroken before ++ (spaces ++ unbroken after) := by
  have begins : ∀ c ∈ before.getLast?, ∀ d ∈ (spaces ++ after).head?,
      isWhitespace c ≠ isWhitespace d := by
    intro c last d first same
    rw [List.head?_append_of_ne_nil _ present] at first
    have white := isWhitespace_of_isSpacing (spacing d (List.mem_of_mem_head? first))
    exact front c last (same.trans white)
  rw [unbroken_append begins, unbroken_spacing_append spacing back]

end Literal

/-- For a literal with well-formed contents `cs`, the character string is `cs` without its longest
runs of whitespace that have a line break in them, and all else in order. So no line break is left;
spacing between two words is kept; the text of a literal on one line is what joining its lines gives;
and an OID-IRI in the literal is written as the character string. -/
theorem character_strings_join_lines {raw : Bytes} {cs : List Char}
    (encoded : Literal.contents raw = Utf8.encode cs) : Literal.JoinsLines raw cs where
  value := Literal.characterString_eq encoded
  white _ member breaks := Literal.isWhitespace_of_mem_runs member breaks
  oneLine := by
    rw [Literal.characterString_eq encoded, Utf8.decodeLossy_encode]
    exact Literal.not_isLineBreak_of_mem_unbroken
  spacing before spaces after split present inside front back := by
    rw [Literal.characterString_eq encoded, split, Literal.unbroken_spacing present inside front back,
      Utf8.encode_append, Utf8.encode_append]
  general := by rw [Literal.characterString_eq encoded, Literal.joinLines_nil]
  iri _ read := Literal.text_eq_characterString read

theorem character_strings_join_lines_indented :
    let cs := ['a', ' ', '\r', '\n', '\t', 'é', '\u00A0', ' ', 'b']
    let raw := Literal.enclose (Utf8.encode cs)
    Literal.contents raw = Utf8.encode cs ∧ Literal.JoinsLines raw cs
      ∧ Literal.characterString raw = Utf8.encode ['a', 'é', '\u00A0', ' ', 'b'] := by
  intro cs raw
  have joins : Literal.JoinsLines raw cs := character_strings_join_lines (by decide)
  have kept : ((Literal.runs cs).filter fun run => !run.any isLineBreak).flatten
      = ['a', 'é', '\u00A0', ' ', 'b'] := by decide
  exact ⟨by decide, joins, by rw [joins.value, kept]⟩

end AsnLexis
