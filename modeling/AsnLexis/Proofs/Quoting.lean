import AsnLexis.Proofs.Literals
import AsnLexis.Proofs.Lookahead
import Mathlib

/-! Quoted literals. A text is put between quotes with each quote in it doubled. What the lexer
takes for a literal is exactly such a text, up to the first quote that is not one of a pair, and
its contents are the text that was quoted. -/

namespace AsnLexis

namespace Literal

def doubled (cs : List Char) : List Char := cs.flatMap fun c => if c = '"' then ['"', '"'] else [c]

def quotation (cs : List Char) : List Char := '"' :: (doubled cs ++ ['"'])

theorem doubled_quote (cs : List Char) : doubled ('"' :: cs) = '"' :: '"' :: doubled cs := rfl

theorem doubled_cons {c : Char} (plain : c ≠ '"') (cs : List Char) :
    doubled (c :: cs) = c :: doubled cs := by
  simp [doubled, plain]

theorem enclose_encodeChar (c : Char) :
    ((Utf8.encodeChar c).flatMap fun b => if b == quote then [quote, quote] else [b])
      = Utf8.encode (if c = '"' then ['"', '"'] else [c]) := by
  by_cases same : c = '"'
  · subst same
    rfl
  · have absent : ∀ b ∈ Utf8.encodeChar c, b ≠ quote := by
      rintro b member rfl
      exact same ((Utf8.mem_encodeChar_ascii (a := '"') (by decide)).1 member)
    rw [if_neg same, Utf8.encode_cons, Utf8.encode_nil, List.append_nil]
    calc
      _ = (Utf8.encodeChar c).flatMap fun b => [b] :=
        List.flatMap_congr fun b member => if_neg (by simpa using absent b member)
      _ = Utf8.encodeChar c := List.flatMap_singleton' _

theorem enclose_encode (cs : List Char) :
    enclose (Utf8.encode cs) = Utf8.encode (quotation cs) := by
  have inner : ((Utf8.encode cs).flatMap fun b => if b == quote then [quote, quote] else [b])
      = Utf8.encode (doubled cs) := by
    simp only [Utf8.encode, doubled, List.flatMap_assoc]
    exact List.flatMap_congr fun c _ => enclose_encodeChar c
  rw [enclose, inner, quotation, Utf8.encode_cons, Utf8.encode_append]
  rfl

theorem undouble_cons {b : UInt8} (plain : b ≠ quote) (rest : Bytes) :
    undouble (b :: rest) = b :: undouble rest := by
  cases rest with
  | nil => rfl
  | cons c rest => simp [undouble, plain]

theorem undouble_doubled (text : Bytes) :
    undouble (text.flatMap fun b => if b == quote then [quote, quote] else [b]) = text := by
  induction text with
  | nil => rfl
  | cons b text ih =>
      rw [List.flatMap_cons]
      by_cases same : b = quote
      · subst same
        simpa [undouble] using ih
      · rw [if_neg (by simpa using same), List.singleton_append, undouble_cons same, ih]

theorem contents_enclose (text : Bytes) : contents (enclose text) = text := by
  have quoted : 2 ≤ (enclose text).length ∧ (enclose text).head? = some quote ∧
      (enclose text).getLast? = some quote :=
    ⟨by simp [enclose], rfl, List.getLast?_concat⟩
  rw [contents, unquote, if_pos (by simpa [and_assoc] using quoted), enclose, List.cons_append,
    List.drop_one, List.tail_cons, List.dropLast_concat, undouble_doubled]

end Literal

namespace Lexeme

open Literal (doubled quotation)

theorem quoted_doubled (cs : List Char) {after : List Char} (single : after.head? ≠ some '"') :
    quoted (doubled cs ++ '"' :: after) = some ((doubled cs).length + 1) := by
  induction cs with
  | nil =>
      have alone : quoted ['"'] = some 1 := rfl
      exact (quoted_append alone single :)
  | cons c cs ih =>
      by_cases same : c = '"'
      · subst same
        simp [Literal.doubled_quote, quoted, ih]
      · simp [Literal.doubled_cons same, quoted_cons same, ih]

theorem exists_doubled {cs : List Char} {n : Nat} (closed : quoted cs = some n) :
    ∃ text after, cs = doubled text ++ '"' :: after ∧ after.head? ≠ some '"' ∧
      n = (doubled text).length + 1 := by
  -- Along the reader: it takes a pair of quotes at once and stops at a single one.
  fun_induction quoted cs generalizing n with
  | case1 => cases closed
  | case2 rest ih =>
      obtain ⟨m, inner, rfl⟩ := Option.map_eq_some_iff.1 closed
      obtain ⟨text, after, rfl, single, rfl⟩ := ih inner
      exact ⟨'"' :: text, after, rfl, single, rfl⟩
  | case3 rest alone =>
      cases closed
      refine ⟨[], rest, rfl, ?_, rfl⟩
      intro first
      obtain ⟨rest, rfl⟩ := List.head?_eq_some_iff.1 first
      exact alone rest rfl
  | case4 c rest _ plain ih =>
      obtain ⟨m, inner, rfl⟩ := Option.map_eq_some_iff.1 closed
      obtain ⟨text, after, rfl, single, rfl⟩ := ih inner
      refine ⟨c :: text, after, ?_, single, ?_⟩
      · rw [Literal.doubled_cons plain, List.cons_append]
      · rw [Literal.doubled_cons plain, List.length_cons]

theorem quoted_eq_none_iff {cs : List Char} :
    quoted cs = none ↔
      ¬ ∃ text after, '"' :: cs = quotation text ++ after ∧ after.head? ≠ some '"' := by
  have enclosed (text after : List Char) :
      '"' :: cs = quotation text ++ after ↔ cs = doubled text ++ '"' :: after := by simp [quotation]
  simp only [enclosed]
  rw [← not_iff_not, not_not]
  constructor
  · intro closed
    obtain ⟨n, found⟩ := Option.ne_none_iff_exists'.1 closed
    obtain ⟨text, after, split, single, _⟩ := exists_doubled found
    exact ⟨text, after, split, single⟩
  · rintro ⟨text, after, rfl, single⟩
    rw [quoted_doubled text single]
    exact Option.some_ne_none _

theorem read_quote (p : Profile) (rest : List Char) : read p '"' rest = readQuoted rest := rfl

theorem read_quotation (p : Profile) (cs : List Char) {after : List Char}
    (single : after.head? ≠ some '"') :
    read p '"' (doubled cs ++ ['"'] ++ after) = ⟨(doubled cs ++ ['"']).length, .literal⟩ := by
  have closed : quoted (doubled cs ++ ['"'] ++ after) = some (doubled cs ++ ['"']).length := by
    rw [List.append_assoc, List.singleton_append, quoted_doubled cs single, List.length_append]
    rfl
  rw [read_quote, readQuoted, closed]

theorem quotation_of_read {p : Profile} {head : Char} {tail left : List Char}
    (read : read p head (tail ++ left) = ⟨tail.length, .literal⟩) :
    ∃ text, head :: tail = quotation text ∧ left.head? ≠ some '"' := by
  have reading := congrArg Front.reading read
  have more := congrArg Front.more read
  have reads := reads_read p head (tail ++ left)
  generalize Lexeme.read p head (tail ++ left) = front at reads reading more
  cases reads with
  | literal quote closed =>
      cases more
      obtain ⟨text, after, split, single, length⟩ := exists_doubled closed
      have enclosed : tail ++ left = doubled text ++ ['"'] ++ after := by simpa using split
      obtain ⟨rfl, rfl⟩ := List.append_inj enclosed (by simpa using length)
      exact ⟨text, by rw [quote, quotation], single⟩
  | _ => cases reading

end Lexeme

namespace Lexer

open Literal (quotation enclose contents)

variable {chars : List Char} {l : Lexer}

theorem Standing.scan_quote (standing : l.Standing chars) (going : l.final = none) {k : Nat}
    {cs : List Char} (trivia : Trivia.gap l.rest = .closed k) (front : l.rest.drop k = '"' :: cs) :
    (∃ e, l.scan.1 = .fatal e ∧ e.reason = .fault .unterminatedString) ↔
      ¬ ∃ text after, '"' :: cs = quotation text ++ after ∧ after.head? ≠ some '"' := by
  rw [← Lexeme.quoted_eq_none_iff]
  cases closed : Lexeme.quoted cs with
  | none =>
      have read : Lexeme.read l.profile '"' (cs ++ [])
          = ⟨cs.length, .fatal .unterminatedString⟩ := by
        rw [List.append_nil, Lexeme.read_quote, Lexeme.readQuoted, closed]
      have scanned := standing.scan_front going trivia (by rw [List.append_nil, front]) read
      obtain ⟨fault, e, same, failed, reason⟩ | ⟨x, _, same, stands, _⟩ := scanned
      · cases same
        exact iff_of_true ⟨e, failed, reason⟩ rfl
      · exact absurd same (stands.mild _)
  | some n =>
      have short := Lexeme.quoted_le closed
      have length : (cs.take n).length = n := List.length_take_of_le short
      have read : Lexeme.read l.profile '"' (cs.take n ++ cs.drop n)
          = ⟨(cs.take n).length, .literal⟩ := by
        rw [List.take_append_drop, length, Lexeme.read_quote, Lexeme.readQuoted, closed]
      have scanned := standing.scan_front going trivia (by rw [List.take_append_drop, front]) read
      obtain ⟨fault, e, same, _⟩ | ⟨x, _, _, _, token⟩ := scanned
      · cases same
      · rw [token]
        simp

theorem Standing.quotation {source : Source} (encoded : source.text = Utf8.encode source.chars)
    (standing : l.Standing source.chars) {t : Token} (token : l.scan.1 = .token t)
    (literal : t.kind = .literal) :
    ∃ text, t.text = enclose (Utf8.encode text) ∧
      source.text[t.span.stop]? ≠ some Literal.quote := by
  obtain ⟨last, _⟩ | ⟨x, left, stands, rfl⟩ := standing.token_cases token
  · rw [literal] at last
    cases last
  · have read := stands.read
    have reading : x.segment.reading = .literal :=
      Lexeme.literal_of_kind (congrArg Lexeme.Front.reading read) (Placed.kind_token _ x ▸ literal)
    rw [reading] at read
    obtain ⟨text, lexeme, single⟩ := Lexeme.quotation_of_read read
    refine ⟨text, ?_, ?_⟩
    · rw [Literal.enclose_encode, ← lexeme]
      simp only [Placed.token, reading]
      rfl
    · rw [Placed.span_token, ← List.head?_drop, Placed.drop_stop encoded stands.lexeme]
      exact (Utf8.head?_encode_ascii (a := '"') (by decide) _).not.2 single

theorem exists_literal_of_quotation (settings : Settings) (text : List Char) {rest : List Char}
    (single : rest.head? ≠ some '"') :
    ∃ source t,
      Source.read (Literal.enclose (Utf8.encode text) ++ Utf8.encode rest) = .ok source ∧
        (start settings source).scan.1 = .token t ∧ t.kind = .literal ∧
        t.text = Literal.enclose (Utf8.encode text) := by
  let source : Source :=
    ⟨false, Utf8.encode (Literal.quotation text ++ rest), Literal.quotation text ++ rest⟩
  have unmarked : ¬ Source.byteOrderMark <+: Utf8.encode (Literal.quotation text ++ rest) := by
    rintro ⟨after, marked⟩
    cases marked
  have reads := reads_start settings source
  have front : (start settings source).rest.drop 0
      = '"' :: (Literal.doubled text ++ ['"'] ++ rest) := by
    rw [reads.rest]
    rfl
  have trivia : Trivia.gap (start settings source).rest = .closed 0 := by
    rw [reads.rest]
    exact Trivia.gap_of_none rfl
  have scanned := (standing_start settings source).scan_front reads.going trivia front
    (Lexeme.read_quotation _ text single)
  obtain ⟨_, _, fatal, _⟩ | ⟨x, lexeme, literal, _, token⟩ := scanned
  · cases fatal
  · refine ⟨source, x.token source.chars, ?_, token, ?_, ?_⟩
    · rw [Literal.enclose_encode, ← Utf8.encode_append]
      exact Source.read_encode unmarked
    · rw [Placed.kind_token, literal]
      rfl
    · simp only [Placed.token, literal, Placed.text, lexeme, Literal.enclose_encode,
        Literal.quotation]

end Lexer

/-- A text between quotes, the quotes in it doubled, is one literal as long as no quote follows,
and its contents are the text. Every literal that any number of scans returns is such a text, and no
quote follows it. A scan with a quote in front of it, trivia aside, fails exactly when the rest of
the source begins with no such text. -/
theorem quoted_texts_read_back (settings : Settings) :
    (∀ text rest : List Char, rest.head? ≠ some '"' →
      let quoted := Literal.enclose (Utf8.encode text)
      Literal.contents quoted = Utf8.encode text ∧
      ∃ source t, Source.read (quoted ++ Utf8.encode rest) = .ok source ∧
        (Lexer.start settings source).scan.1 = .token t ∧ t.kind = .literal ∧ t.text = quoted) ∧
    ∀ input source, Source.read input = .ok source →
      let l := Lexer.start settings source
      (∀ n t, l.returned n = .token t → t.kind = .literal →
        t.text = Literal.enclose (Literal.contents t.text) ∧
          source.text[t.span.stop]? ≠ some Literal.quote) ∧
      ∀ n k cs, (l.afterScans n).final = none → Trivia.gap (l.afterScans n).rest = .closed k →
        (l.afterScans n).rest.drop k = '"' :: cs →
        ((∃ e, l.returned n = .fatal e ∧ e.reason = .fault .unterminatedString) ↔
          ¬ ∃ text after, Utf8.encode ('"' :: cs)
              = Literal.enclose (Utf8.encode text) ++ Utf8.encode after ∧
            after.head? ≠ some '"') := by
  constructor
  · intro text rest single
    exact ⟨Literal.contents_enclose _, Lexer.exists_literal_of_quotation settings text single⟩
  · intro input source decoded l
    have encoded := (Source.read_eq_ok_iff.1 decoded).2
    have standing := (Lexer.standing_start settings source).scans
    constructor
    · intro n t token literal
      obtain ⟨text, quoted, single⟩ := (standing n).quotation encoded token literal
      exact ⟨by rw [quoted, Literal.contents_enclose], single⟩
    · intro n k cs going trivia front
      simp only [Literal.enclose_encode, ← Utf8.encode_append, Utf8.encode_inj]
      exact (standing n).scan_quote going trivia front

theorem quoted_texts_read_back_comment_opener :
    let settings : Settings := ⟨[], .ascii⟩
    let text := ['"', '/', '*', '\'', '\n', '"']
    let quoted := Literal.enclose (Utf8.encode text)
    let cs := ['"', 'a', '"', '"']
    let source : Source := ⟨false, Utf8.encode cs, cs⟩
    Literal.contents quoted = Utf8.encode text ∧
      (∃ source t, Source.read (quoted ++ Utf8.encode ['A']) = .ok source ∧
        (Lexer.start settings source).scan.1 = .token t ∧ t.kind = .literal ∧ t.text = quoted ∧
        source.text[t.span.stop]? ≠ some Literal.quote) ∧
      Source.read (Utf8.encode cs) = .ok source ∧
      ((∃ e, (Lexer.start settings source).returned 0 = .fatal e ∧
          e.reason = .fault .unterminatedString) ↔
        ¬ ∃ text after, Utf8.encode cs = Literal.enclose (Utf8.encode text) ++ Utf8.encode after ∧
          after.head? ≠ some '"') := by
  intro settings text quoted cs source
  obtain ⟨forward, backward⟩ := quoted_texts_read_back settings
  obtain ⟨contents, source', t, decoded', token, literal, same⟩ := forward text ['A'] (by decide)
  have single := ((backward _ source' decoded').1 0 t token literal).2
  have decoded : Source.read (Utf8.encode cs) = .ok source := Source.read_encode (by decide)
  have unclosed :=
    (backward _ source decoded).2 0 0 ['a', '"', '"'] rfl (Trivia.gap_of_none rfl) rfl
  exact ⟨contents, ⟨source', t, decoded', token, literal, same, single⟩, decoded, unclosed⟩

end AsnLexis
