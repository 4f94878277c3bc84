import AsnLexis.Candidate
import AsnLexis.Proofs.NormalForm
import AsnLexis.Proofs.Respacing
import Mathlib

/-! The texts of tokens. The text of a word is the canonical form of its lexeme, and every other text
is the lexeme itself. A canonical text is a source of its own, and all that it holds is the word. -/

namespace AsnLexis

theorem Profile.classify_ofText {p : Profile} {cs : List Char} {id : Identifier} :
    p.classify (.ofText (Utf8.encode cs)) = .ok id ↔ p.check cs = .ok id := by
  rw [classify_eq_ok_iff, Candidate.scalars_ofText, Utf8.decodeLossy_encode]

theorem Profile.check_normalize {p : Profile} {cs : List Char} {id : Identifier}
    (checked : p.check cs = .ok id)
    (settled : p.form.normalize (p.form.normalize cs) = p.form.normalize cs) :
    id.text = Utf8.encode (p.form.normalize cs) ∧ p.flaw? (p.form.normalize cs) = none ∧
      p.check (p.form.normalize cs) = .ok id := by
  obtain ⟨_, sound, rfl⟩ := check_eq_ok_iff.1 checked
  refine ⟨rfl, sound, check_eq_ok_iff.2 ⟨?_, ?_, ?_⟩⟩
  · intro empty
    rw [empty] at sound
    cases sound
  · rw [settled, sound]
  · rw [settled]

theorem isBoundary_of_continue {c : Char} (more : isIdentifierContinue c) :
    isBoundary c = false := by
  by_cases low : c.toNat < 0x80
  · have entry := of_ascii_table (fun c => !isIdentifierContinue c || !isBoundary c) low
      (by decide)
    simpa [more] using entry
  · have dark : isWhitespace c = false := by
      by_contra white
      have table : [' ', '\t', '\u00A0', '\n', '\x0B', '\x0C', '\r'].all
          (fun c => !isIdentifierContinue c) := by decide +kernel
      have never := List.all_eq_true.1 table c (eq_of_isWhitespace (by simpa using white))
      simp [more] at never
    simp [isBoundary, dark, low]

theorem others_of_start {c : Char} (start : isIdentifierStart c) :
    c ≠ '"' ∧ c ≠ '\'' ∧ c ≠ '/' ∧ isDigit c = false ∧ isHyphen c = false := by
  by_cases low : c.toNat < 0x80
  · have entry := of_ascii_table (fun c => !isIdentifierStart c || (c != '"' && c != '\'' &&
      c != '/' && !isDigit c && !isHyphen c)) low (by decide)
    simpa [start, and_assoc] using entry
  · have plain (d : Char) (ascii : d.toNat < 0x80) : c ≠ d := by
      rintro rfl
      exact low ascii
    have wide (d : Char) (never : isIdentifierStart d = false) : c ≠ d := by
      rintro rfl
      simp [never] at start
    have digit : isDigit c = false := by
      by_contra digit
      simp only [isDigit, Bool.not_eq_false, Bool.and_eq_true, decide_eq_true_eq] at digit
      have bound : c.toNat ≤ '9'.toNat := digit.2
      exact low (Nat.lt_of_le_of_lt bound (by decide))
    have hyphen : isHyphen c = false := by
      simp [isHyphen, hyphenMinus, plain '-' (by decide), wide '\u2010' (by decide +kernel),
        wide '\u2011' (by decide +kernel)]
    exact ⟨plain _ (by decide), plain _ (by decide), plain _ (by decide), digit, hyphen⟩

namespace Lexeme

theorem word_of_continue {rest : List Char} (more : ∀ c ∈ rest, isIdentifierContinue c)
    (single : adjacentHyphen? rest = none) : word rest = rest.length := by
  induction rest with
  | nil => rfl
  | cons c rest ih =>
      obtain ⟨first, later⟩ := List.forall_mem_cons.1 more
      obtain ⟨apart, single⟩ := (adjacentHyphen?_cons c rest).1 single
      have alone : (c == '-' && rest.head? == some '-') = false := by
        simpa [hyphenMinus] using apart
      rw [word, isBoundary_of_continue first, alone, ih later single]
      rfl

theorem read_accepted {p : Profile} {c : Char} {rest : List Char} {id : Identifier}
    (sound : p.flaw? (c :: rest) = none) (checked : p.check (c :: rest) = .ok id) :
    read p c rest = ⟨rest.length, .word id⟩ := by
  obtain ⟨start, more, single, _⟩ := Profile.flaw?_cons_eq_none.1 sound
  have first := Profile.identifierStart_of_isStart start
  have later (d : Char) (member : d ∈ rest) : isIdentifierContinue d :=
    Profile.identifierContinue_of_isContinue (more d member)
  have whole := word_of_continue later ((adjacentHyphen?_cons c rest).1 single).2
  -- What begins an identifier begins no other lexeme, so it comes to the reader of words.
  obtain ⟨quote, apostrophe, _, digit, hyphen⟩ := others_of_start first
  simp [read, quote, apostrophe, digit, hyphen, start, readWord, whole, checked]

theorem check_of_word {p : Profile} {c : Char} {tail left : List Char} {id : Identifier}
    (found : read p c (tail ++ left) = ⟨tail.length, .word id⟩) : p.check (c :: tail) = .ok id := by
  have reads := reads_read p c (tail ++ left)
  rw [found] at reads
  generalize length : tail.length = n at reads
  cases reads with
  | word _ checked => rwa [← length, List.take_left] at checked

end Lexeme

theorem Segmented.accepted {p : Profile} {c : Char} {rest : List Char} {id : Identifier}
    (sound : p.flaw? (c :: rest) = none) (checked : p.check (c :: rest) = .ok id) :
    Segmented p (c :: rest) [⟨[], c, rest, .word id⟩] (.finished []) := by
  have first := Profile.identifierStart_of_isStart (Profile.flaw?_cons_eq_none.1 sound).1
  have read := Lexeme.read_accepted sound checked
  have dark : ¬ isWhitespace c := by
    have inside := isBoundary_of_continue (isIdentifierContinue_of_start first)
    rw [isBoundary, Bool.or_eq_false_iff] at inside
    simp [inside.1]
  obtain ⟨_, _, slash, _, hyphen⟩ := others_of_start first
  have noHyphen : c ≠ '-' := by
    rintro rfl
    cases hyphen
  have begins : Trivia.item (c :: rest) = .none :=
    Trivia.item_eq_none_iff.2 ⟨dark, fun both => noHyphen both.1, fun both => slash both.1⟩
  have behind : Segmented p [] [] (.finished []) := .finished (Trivia.gap_of_none rfl)
  have cut : Segmented p ([] ++ c :: (rest ++ [])) [⟨[], c, rest, .word id⟩] (.finished []) := by
    apply Segmented.segment _ _ (by simp) behind
    · exact Trivia.gap_of_none (by simpa using begins)
    · rw [List.append_nil, read]
  rwa [List.nil_append, List.append_nil] at cut

/-- A source that holds the token `t` and no more, and in which nothing is wrong. -/
structure Tokenized.IsSingle (r : Tokenized) (t : Token) : Prop where
  tokens : ∃ last, r.tokens = [t, last] ∧ last.kind = .endOfInput
  diagnostics : r.diagnostics = []
  fatal : r.fatal = none

def Identifier.token (id : Identifier) : Token where
  kind := if isKeyword id.text then .keyword else .identifier
  text := id.text
  span := ⟨0, id.text.length, 1, 1⟩
  lead := id.lead

theorem isSingle_of_accepted (name : Bytes) (settings : Settings) {cs : List Char}
    {id : Identifier} (text : id.text = Utf8.encode cs) (sound : settings.profile.flaw? cs = none)
    (checked : settings.profile.check cs = .ok id) :
    (tokenize name settings id.text).IsSingle id.token := by
  cases cs with
  | nil => cases sound
  | cons c rest =>
      have cut := Segmented.accepted sound checked
      have same : textOf (respace [] [⟨[], c, rest, .word id⟩]) = c :: rest := by
        simp [textOf, respace, Segment.chars, Segment.lexeme]
      have unmarked := cut.unmarked
      rw [same] at unmarked
      have outlined := cut.outlined name (Source.read_encode unmarked)
      rw [← text] at outlined
      have stop := offset_within_append (List.append_nil (c :: rest)).symm
      have span : Placed.span (c :: rest) ⟨⟨[], c, rest, .word id⟩, 0, 0⟩
          = ⟨0, id.text.length, 1, 1⟩ := by
        rw [text, ← stop, Placed.span, Placed.stop, Nat.zero_add]
        rfl
      have token : Placed.token (c :: rest) ⟨⟨[], c, rest, .word id⟩, 0, 0⟩ = id.token := by
        rw [Placed.token, span]
        rfl
      constructor
      · exact ⟨_, outlined.tokens.trans (congrArg (· :: _) token), rfl⟩
      · exact outlined.diagnostics
      · exact outlined.fatal

/-- A canonical text is a source of its own. Only beyond ASCII does that ask anything of the form. -/
theorem isSingle_canonical (name : Bytes) {settings : Settings}
    (keeps : settings.profile.form.KeepsAscii) {cs : List Char} {id : Identifier}
    (checked : settings.profile.check cs = .ok id)
    (stable : ¬ isAscii id.text → settings.profile.form.StableAt cs) :
    (tokenize name settings id.text).IsSingle id.token := by
  have settled : settings.profile.form.normalize (settings.profile.form.normalize cs)
      = settings.profile.form.normalize cs := by
    by_cases ascii : isAscii id.text
    · obtain ⟨_, _, rfl⟩ := Profile.check_eq_ok_iff.1 checked
      exact NormalForm.normalize_of_ascii keeps (isAscii_encode.1 ascii)
    · exact (stable ascii).normalize_normalize
  obtain ⟨text, sound, again⟩ := Profile.check_normalize checked settled
  exact isSingle_of_accepted name settings text sound again

inductive Token.Reflects (p : Profile) (lexeme : Bytes) (t : Token) : Prop
  | word (word : t.IsWord) (classified : p.classify (.ofText lexeme) = .ok ⟨t.text, t.lead⟩)
      (canonical : t.text = p.form.canonical lexeme) (lead : t.lead = leadCaseOf t.text)
      (reserved : t.kind = .keyword ↔ isKeyword t.text)
  | other (other : ¬ t.IsWord) (text : t.text = lexeme)

namespace Placed

variable {p : Profile} {x : Placed} {left : List Char} (chars : List Char)

theorem token_of_word {id : Identifier} (word : x.segment.reading = .word id) :
    x.token chars = { id.token with span := x.span chars } := by
  rw [token, word]
  rfl

theorem word_or_text (read : Lexeme.read p x.segment.head (x.segment.tail ++ left)
      = ⟨x.segment.tail.length, x.segment.reading⟩) :
    (∃ id, x.segment.reading = .word id ∧ p.check x.segment.lexeme = .ok id) ∨
      (¬ (x.token chars).IsWord ∧ (x.token chars).text = x.text) := by
  cases found : x.segment.reading with
  | word id =>
      rw [found] at read
      exact .inl ⟨id, rfl, Lexeme.check_of_word read⟩
  | plain kind =>
      have others := Lexeme.kind_of_plain ((congrArg Lexeme.Front.reading read).trans found)
      refine .inr ⟨?_, by simp [token, found]⟩
      simp only [token, found, Token.IsWord]
      rintro (rfl | rfl)
      · exact others (by decide)
      · exact others (by decide)
  | _ => simp [token, found, Token.IsWord]

theorem reflects_word (keeps : p.form.KeepsAscii) {id : Identifier}
    (word : x.segment.reading = .word id) (checked : p.check x.segment.lexeme = .ok id) :
    (x.token chars).Reflects p x.text := by
  rw [token_of_word chars word]
  have classified := Profile.classify_ofText.2 checked
  obtain ⟨_, _, rfl⟩ := Profile.check_eq_ok_iff.1 checked
  apply Token.Reflects.word
  · simp only [Token.IsWord, Identifier.token]
    split <;> simp
  · exact classified
  · exact (NormalForm.canonical_encode keeps _).symm
  · simp only [Identifier.token, leadCaseOf, Utf8.decodeLossy_encode]
  · simp only [Identifier.token]
    split <;> simp_all

end Placed

/-- The text of an identifier or a keyword is the canonical form of its lexeme, which is classified
as that identifier; every other token has its lexeme for a text. The text of an identifier or a
keyword, read as a source of its own, is that token again and nothing else. Where the text is not
ASCII, this rests on the normal form being stable at the lexeme. -/
theorem token_texts_canonical (name file : Bytes) (strict : Bool) {input : Bytes} {source : Source}
    (decoded : Source.read input = .ok source) :
    let settings : Settings := ⟨file, .ofStrict strict⟩
    ∀ t ∈ (tokenize name settings input).tokens, t.kind ≠ .endOfInput →
      t.Reflects settings.profile (source.sliceSpan t.span) ∧
      (t.IsWord →
        (¬ isAscii t.text →
          settings.profile.form.StableAt (Utf8.decodeLossy (source.sliceSpan t.span))) →
        (tokenize name settings t.text).IsSingle { t with span := ⟨0, t.text.length, 1, 1⟩ }) := by
  intro settings t member inner
  have keeps : settings.profile.form.KeepsAscii := by
    cases strict <;> exact Unicode.nfc_keepsAscii
  obtain ⟨segments, ending, cut⟩ := exists_segmented settings.profile source.chars
  have tokens := cut.filter_tokens (cut.outlined name decoded)
  have kept : t ∈ (layout 0 0 segments).map (Placed.token source.chars) := by
    rw [← tokens, List.mem_filter]
    exact ⟨member, by simpa using inner⟩
  obtain ⟨x, placed, rfl⟩ := List.mem_map.1 kept
  have lexeme := cut.sliceSpan_token (Source.read_eq_ok_iff.1 decoded).2 placed
  obtain ⟨left, read, _⟩ := cut.read_of_mem (segment_of_mem_layout placed)
  rw [lexeme, Utf8.decodeLossy_encode]
  rcases Placed.word_or_text source.chars read with ⟨id, word, checked⟩ | ⟨other, text⟩
  · refine ⟨Placed.reflects_word source.chars keeps word checked, ?_⟩
    intro _ stable
    rw [Placed.token_of_word source.chars word] at stable ⊢
    exact isSingle_canonical name keeps checked stable
  · exact ⟨.other other text, fun word => absurd word other⟩

theorem token_texts_canonical_accent :
    let cs := ['E', '\u0301', '\u2010', 'b']
    let source : Source := ⟨false, Utf8.encode cs, cs⟩
    let settings : Settings := ⟨[], .ofStrict false⟩
    let t : Token := ⟨.identifier, Utf8.encode ['É', '-', 'b'], ⟨0, 7, 1, 1⟩, .upper, 0⟩
    Source.read (Utf8.encode cs) = .ok source ∧
      t ∈ (tokenize [] settings (Utf8.encode cs)).tokens ∧ ¬ isAscii t.text ∧
      settings.profile.form.StableAt (Utf8.decodeLossy (source.sliceSpan t.span)) ∧
      t.Reflects settings.profile (source.sliceSpan t.span) ∧
      (tokenize [] settings t.text).IsSingle { t with span := ⟨0, t.text.length, 1, 1⟩ } := by
  intro cs source settings t
  have decoded : Source.read (Utf8.encode cs) = .ok source := Source.read_encode (by decide)
  have member : t ∈ (tokenize [] settings (Utf8.encode cs)).tokens := by decide +kernel
  have stable : settings.profile.form.StableAt (Utf8.decodeLossy (source.sliceSpan t.span)) :=
    ⟨by decide +kernel, by decide +kernel⟩
  obtain ⟨reflects, single⟩ := token_texts_canonical [] [] false decoded t member (by decide)
  exact ⟨decoded, member, by decide, stable, reflects, single (.inl rfl) (fun _ => stable)⟩

end AsnLexis
