import AsnLexis.Proofs.Quoting
import AsnLexis.Proofs.Resolution
import AsnLexis.Proofs.Words
import Mathlib

/-! The line and the caret that a diagnostic is printed with. Places count lines forward, scalar by
scalar; the printed line is found among the bytes, by going back and forth from the start of the
diagnostic. The two agree as no diagnostic starts at a line break. -/

namespace AsnLexis

/-- Line breaks in a text. A CR LF pair is one of them. -/
def lineBreaks : List Char → Nat
  | '\r' :: '\n' :: rest => lineBreaks rest + 1
  | c :: rest => if isLineBreak c then lineBreaks rest + 1 else lineBreaks rest
  | [] => 0

namespace Position

theorem past_break {c : Char} {next : Option Char} (breaks : isLineBreak c)
    (whole : ¬ (c = '\r' ∧ next = some '\n')) (p : Position) :
    p.past c next = ⟨p.offset + Utf8.width c, p.line + 1, 1⟩ := by
  have complete : (c == '\r' && next == some '\n') = false := by simpa using whole
  rw [past, breaks, complete]
  rfl

theorem past_inLine {c : Char} (inLine : ¬ isLineBreak c) (next : Option Char) (p : Position) :
    p.past c next = ⟨p.offset + Utf8.width c, p.line, p.column + 1⟩ := by
  rw [past, if_neg (by simp [inLine])]

theorem line_advance (p : Position) (front : List Char) {c : Char} (inLine : ¬ isLineBreak c)
    (back : List Char) :
    (p.advance (front ++ c :: back) front.length).line = p.line + lineBreaks front := by
  have other : c ≠ '\n' := by
    intro feed
    exact inLine (feed ▸ by decide)
  -- Along the count of breaks; a CR at the end of `front` is complete as no LF follows it.
  fun_induction lineBreaks front generalizing p with
  | case1 rest ih =>
      rw [List.cons_append, List.cons_append, List.length_cons, List.length_cons, advance, advance,
        ih]
      simp [past, isLineBreak, Nat.add_assoc, Nat.add_comm 1]
  | case2 d rest single breaks ih =>
      have whole : ¬ (d = '\r' ∧ (rest ++ c :: back).head? = some '\n') := by
        rintro ⟨rfl, next⟩
        cases rest with
        | nil => exact other (Option.some.inj next)
        | cons e rest => exact single rest rfl (by rw [Option.some.inj next])
      rw [List.cons_append, List.length_cons, advance, ih, past_break breaks whole]
      exact Nat.add_right_comm p.line 1 (lineBreaks rest)
  | case3 d rest _ noBreak ih =>
      rw [List.cons_append, List.length_cons, advance, ih, past_inLine noBreak]
  | case4 => simp

theorem column_advance (p : Position) {before : List Char} (inLine : ∀ c ∈ before, ¬ isLineBreak c)
    (after : List Char) :
    (p.advance (before ++ after) before.length).column = p.column + before.length := by
  induction before generalizing p with
  | nil => simp
  | cons c before ih =>
      obtain ⟨noBreak, later⟩ := List.forall_mem_cons.1 inLine
      rw [List.cons_append, List.length_cons, advance, ih _ later, past_inLine noBreak]
      exact Nat.add_right_comm p.column 1 before.length

theorem column_within_line {above after : List Char} (top : ∀ c ∈ above.getLast?, isLineBreak c)
    (inLine : ∀ c ∈ after.head?, ¬ isLineBreak c) :
    (within (above ++ after) above.length).column = 1 := by
  rcases List.eq_nil_or_concat above with rfl | ⟨front, b, rfl⟩
  · simp [within, first]
  · have breaks : isLineBreak b := top b (by simp)
    have whole : ¬ (b = '\r' ∧ after.head? = some '\n') := by
      rintro ⟨_, line⟩
      exact inLine _ line (by decide)
    have step := advance_drop first (front ++ b :: after) front.length 1
    rw [List.drop_left, advance, advance_zero, past_break breaks whole] at step
    rw [within, List.concat_eq_append, List.append_assoc, List.singleton_append,
      List.length_append, List.length_singleton, ← step]

end Position

/-- The line of a text around a scalar that is no line break. -/
structure Lined (chars above before : List Char) (c : Char) (after below : List Char) : Prop where
  whole : chars = above ++ (before ++ c :: after) ++ below
  inLine : ∀ x ∈ before ++ c :: after, ¬ isLineBreak x
  top : ∀ x ∈ above.getLast?, isLineBreak x
  bottom : ∀ x ∈ below.head?, isLineBreak x

theorem exists_stretch {α : Type} {p : α → Bool} {xs : List α} {i : Nat} {x : α}
    (here : xs[i]? = some x) (holds : p x) :
    let before := (xs.take i).rtakeWhile p
    let after := (xs.drop (i + 1)).takeWhile p
    ∃ above below, xs = above ++ (before ++ x :: after) ++ below ∧
      (∀ y ∈ before ++ x :: after, p y) ∧ (∀ y ∈ above.getLast?, ¬ p y) ∧
      (∀ y ∈ below.head?, ¬ p y) ∧ (above ++ before).length = i := by
  intro before after
  obtain ⟨bound, rfl⟩ := List.getElem?_eq_some_iff.1 here
  refine ⟨(xs.take i).rdropWhile p, (xs.drop (i + 1)).dropWhile p, ?_, ?_, ?_, ?_, ?_⟩
  · rw [← List.append_assoc, List.rdropWhile_append_rtakeWhile, List.append_assoc, List.cons_append,
      List.takeWhile_append_dropWhile, ← List.drop_eq_getElem_cons, List.take_append_drop]
  · intro y member
    rcases List.mem_append.1 member with front | member
    · exact List.mem_rtakeWhile_imp front
    · rcases List.mem_cons.1 member with rfl | back
      · exact holds
      · exact List.mem_takeWhile_imp back
  · intro y last
    obtain ⟨some, rfl⟩ := List.mem_getLast?_eq_getLast last
    exact List.rdropWhile_last_not p (xs.take i) some
  · intro y first
    have stop := List.head?_dropWhile_not p (xs.drop (i + 1))
    rw [Option.mem_def.1 first] at stop
    simpa using stop
  · rw [List.rdropWhile_append_rtakeWhile, List.length_take_of_le (Nat.le_of_lt bound)]

theorem exists_lined {chars : List Char} {i : Nat} {c : Char} (here : chars[i]? = some c)
    (inLine : ¬ isLineBreak c) :
    ∃ above before after below, Lined chars above before c after below ∧
      (above ++ before).length = i := by
  have holds : (!isLineBreak c) = true := by simpa using inLine
  obtain ⟨above, below, whole, stretch, top, bottom, length⟩ :=
    exists_stretch (p := (!isLineBreak ·)) here holds
  exact ⟨above, _, _, below,
    ⟨whole, by simpa using stretch, by simpa using top, by simpa using bottom⟩, length⟩

namespace Diagnostic

/-- What stands under a scalar of the printed line, up to the caret. -/
def under (c : Char) : UInt8 := if c = '\t' then 0x09 else 0x20

theorem encodeChar_of_isLineBreak {c : Char} (breaks : isLineBreak c) :
    ∃ b, Utf8.encodeChar c = [b] ∧ isBreakByte b := by
  have named : ((c = '\n' ∨ c = '\x0B') ∨ c = '\x0C') ∨ c = '\r' := by
    simpa [isLineBreak] using breaks
  rcases named with ((rfl | rfl) | rfl) | rfl
  · exact ⟨0x0A, by decide, by decide⟩
  · exact ⟨0x0B, by decide, by decide⟩
  · exact ⟨0x0C, by decide, by decide⟩
  · exact ⟨0x0D, by decide, by decide⟩

theorem not_isBreakByte_of_line {line : List Char} (inLine : ∀ c ∈ line, ¬ isLineBreak c) :
    ∀ b ∈ Utf8.encode line, (!isBreakByte b) = true := by
  intro b member
  obtain ⟨c, inside, member⟩ := List.mem_flatMap.1 member
  have noBreak := inLine c inside
  by_cases low : c.toNat < 0x80
  · have entry := of_ascii_table
      (fun c => isLineBreak c || (Utf8.encodeChar c).all (!isBreakByte ·)) low (by decide)
    rw [Bool.or_eq_true, or_iff_right noBreak] at entry
    exact List.all_eq_true.1 entry b member
  · have high := Utf8.high_of_mem_encodeChar (Nat.not_lt.1 low) member
    have beyond : ¬ b ≤ 0x0D := by
      rw [UInt8.le_iff_toNat_le]
      exact Nat.not_le.2 (Nat.lt_of_lt_of_le (by decide) high)
    simp [isBreakByte, beyond]

theorem lineAt_encode {chars above before after below : List Char} {c : Char}
    (lined : Lined chars above before c after below) :
    lineAt (Utf8.encode chars) (Utf8.encode (above ++ before)).length
      = Utf8.encode (before ++ c :: after) := by
  have clean := not_isBreakByte_of_line lined.inLine
  rw [Utf8.encode_append] at clean
  obtain ⟨front, back⟩ := List.forall_mem_append.1 clean
  have split : Utf8.encode chars
      = Utf8.encode (above ++ before) ++ (Utf8.encode (c :: after) ++ Utf8.encode below) := by
    rw [lined.whole]
    simp only [Utf8.encode_append, List.append_assoc]
  have top : ∀ b ∈ (Utf8.encode above).reverse.head?, ¬ (!isBreakByte b) = true := by
    intro b last
    rcases List.eq_nil_or_concat above with rfl | ⟨more, d, rfl⟩
    · cases last
    · obtain ⟨e, bytes, breaks⟩ := encodeChar_of_isLineBreak (lined.top d (by simp))
      obtain rfl : e = b := by simpa [bytes] using last
      simp [breaks]
  have bottom : ∀ b ∈ (Utf8.encode below).head?, ¬ (!isBreakByte b) = true := by
    intro b first
    cases below with
    | nil => cases first
    | cons d more =>
        obtain ⟨e, bytes, breaks⟩ := encodeChar_of_isLineBreak (lined.bottom d rfl)
        obtain rfl : e = b := by simpa [bytes] using first
        simp [breaks]
  rw [lineAt, split, if_neg (by simp), List.take_left, List.drop_left, Utf8.encode_append,
    List.reverse_append, Lexeme.takeWhile_append_stop top,
    Lexeme.takeWhile_append_stop bottom,
    List.takeWhile_eq_self_iff.2 back, List.takeWhile_eq_self_iff.2 (by simpa using front),
    List.reverse_reverse, ← Utf8.encode_append]

theorem caretPadding_encode (before after : List Char) :
    caretPadding (Utf8.encode (before ++ after)) (before.length + 1) = before.map under := by
  rw [caretPadding, Utf8.pieces_encode, Nat.add_sub_cancel, List.map_append,
    List.take_left' (List.length_map _), List.map_map]
  refine List.map_congr_left fun c _ => ?_
  by_cases tab : c = '\t' <;> simp [under, tab]

end Diagnostic

theorem Lined.column_within {chars above before after below : List Char} {c : Char}
    (lined : Lined chars above before c after below) :
    (Position.within chars (above.length + before.length)).column = before.length + 1 := by
  have inLine := (List.forall_mem_append.1 lined.inLine).1
  have first : ∀ x ∈ (before ++ c :: after ++ below).head?, ¬ isLineBreak x := by
    intro x member
    rw [List.head?_append_of_ne_nil _ (by simp)] at member
    exact lined.inLine x (List.mem_of_mem_head? member)
  have left := Position.column_within_line lined.top first
  have split : chars = above ++ (before ++ c :: after ++ below) := by
    rw [lined.whole, List.append_assoc]
  rw [← split] at left
  have line : chars.drop above.length = before ++ (c :: after ++ below) := by
    rw [split, List.drop_left, List.append_assoc]
  rw [Position.within, ← Position.advance_drop, line, Position.column_advance _ inLine,
    ← Position.within, left, Nat.add_comm]

def Position.InLine (chars : List Char) (p : Position) : Prop :=
  ∃ i c, chars[i]? = some c ∧ ¬ isLineBreak c ∧ p = within chars i

theorem not_isLineBreak_of_not_isWhitespace {c : Char} (dark : ¬ isWhitespace c) :
    ¬ isLineBreak c := by
  intro breaks
  exact dark (by simp [isWhitespace, breaks])

namespace Lexeme

theorem not_isBoundary_of_mem_word {cs : List Char} {c : Char} (member : c ∈ cs.take (word cs)) :
    ¬ isBoundary c := by
  fun_induction word cs with
  | case1 => cases member
  | case2 => cases member
  | case3 => cases member
  | case4 d rest inside _ ih =>
      rw [List.take_succ_cons] at member
      rcases List.mem_cons.1 member with rfl | later
      · exact inside
      · exact ih later

theorem not_isWhitespace_of_badWord {p : Profile} {c : Char} {rest : List Char} {i : Nat}
    {flaw : IdentifierFlaw} (bad : (read p c rest).reading = .badWord i flaw) {d : Char}
    (member : d ∈ c :: rest.take (read p c rest).more) : ¬ isWhitespace d := by
  have dark {e : Char} (inside : ¬ isBoundary e) : ¬ isWhitespace e := by
    intro white
    exact inside (by simp [isBoundary, white])
  have reads := reads_read p c rest
  generalize read p c rest = front at reads bad member
  cases reads with
  | badWord start _ _ _ =>
      rcases List.mem_cons.1 member with rfl | later
      · have more : isIdentifierContinue d := by
          rcases start with start | ⟨_, more⟩
          · exact isIdentifierContinue_of_start (Profile.identifierStart_of_isStart start)
          · exact more
        exact dark (by simp [isBoundary_of_continue more])
      · exact dark (not_isBoundary_of_mem_word later)
  | _ => cases bad

end Lexeme

namespace Segmented

variable {p : Profile} {chars : List Char} {segments : List Segment} {ending : Ending}

theorem dark_head (cut : Segmented p chars segments ending) {s : Segment}
    (member : s ∈ segments) : ¬ isWhitespace s.head := by
  induction cut with
  | finished => cases member
  | unclosed => cases member
  | fatal => cases member
  | segment trivia _ _ _ ih =>
      rcases List.mem_cons.1 member with rfl | later
      · exact (Trivia.item_eq_none_iff.1 (Trivia.isTrivia_of_closed trivia).2).1
      · exact ih later

theorem dark_fatal {gap tail left : List Char} {head : Char} {fault : Fault}
    (cut : Segmented p chars segments (.fatal gap head tail left fault)) : ¬ isWhitespace head := by
  generalize last : Ending.fatal gap head tail left fault = ending at cut
  induction cut with
  | finished => cases last
  | unclosed trivia =>
      cases last
      intro white
      have opened := (Trivia.isTrivia_of_unclosed trivia).2
      rw [Trivia.item_white white] at opened
      cases opened
  | fatal trivia =>
      cases last
      exact (Trivia.item_eq_none_iff.1 (Trivia.isTrivia_of_closed trivia).2).1
  | segment _ _ _ _ ih => exact ih last

theorem inLine_diagnostic (cut : Segmented p chars segments ending) {x : Placed}
    (member : x ∈ layout 0 0 segments) {d : Diagnostic} (found : x.diagnostic? chars = some d) :
    d.span.place.InLine chars := by
  have listed := segment_of_mem_layout member
  obtain ⟨left, read, _⟩ := cut.read_of_mem listed
  obtain ⟨before, after, split, length⟩ := layout_split [] ending.chars member
  rw [List.nil_append, ← cut.chars_eq] at split
  have here (i : Nat) (inside : i < x.segment.lexeme.length) :
      chars[x.start + i]? = some x.segment.lexeme[i] := by
    rw [split, ← length, List.getElem?_append_right (Nat.le_add_right _ _), Nat.add_sub_cancel_left,
      List.getElem?_append_left inside, List.getElem?_eq_getElem inside]
  rw [Placed.diagnostic?] at found
  cases reading : x.segment.reading with
  | badWord i flaw =>
      rw [reading] at found
      cases found
      have inside := Nat.lt_succ_of_le (cut.index_le listed reading)
      refine ⟨x.start + i, _, here i inside, not_isLineBreak_of_not_isWhitespace ?_, rfl⟩
      apply Lexeme.not_isWhitespace_of_badWord
        ((congrArg Lexeme.Front.reading read).trans reading)
      rw [read, List.take_left]
      exact List.getElem_mem inside
  | malformed fault =>
      rw [reading] at found
      cases found
      exact ⟨x.start, _, here 0 (Nat.succ_pos _),
        not_isLineBreak_of_not_isWhitespace (cut.dark_head listed), rfl⟩
  | _ =>
      rw [reading] at found
      cases found

theorem inLine_error (cut : Segmented p chars segments ending) {e : LexError}
    (failed : (ending.scanned chars (extent segments)).error? = some e) :
    e.span.place.InLine chars := by
  cases ending with
  | finished gap => cases failed
  | fatal gap head tail left fault =>
      cases failed
      refine ⟨extent segments + gap.length, head, ?_,
        not_isLineBreak_of_not_isWhitespace cut.dark_fatal, rfl⟩
      rw [cut.chars_eq, Ending.chars, ← List.append_assoc, extent, ← List.length_append,
        List.getElem?_append_right (Nat.le_refl _), Nat.sub_self]
      rfl

end Segmented

namespace Lexer

theorem Standing.inLine_literal {l : Lexer} {chars : List Char} (standing : l.Standing chars)
    {t : Token} (found : t ∈ literalsOf l.scan.1.token?.toList) : t.span.place.InLine chars := by
  obtain ⟨scanned, literal⟩ := List.mem_filter.1 found
  have token : l.scan.1 = .token t := by
    cases returned : l.scan.1 with
    | fatal e => simp [returned, Scanned.token?] at scanned
    | token u => simpa [returned, Scanned.token?, eq_comm] using scanned
  rcases standing.token_cases token with ⟨ended, _⟩ | ⟨x, left, stands, rfl⟩
  · simp [Token.isLiteral, ended] at literal
  · have read := stands.read
    rw [(Placed.isLiteral_token_iff chars read).1 literal] at read
    obtain ⟨text, lexeme, _⟩ := Lexeme.quotation_of_read read
    refine ⟨x.start, '"', ?_, by decide, ?_⟩
    · rw [← List.head?_drop, stands.lexeme, Segment.lexeme, lexeme]
      rfl
    · rw [Placed.span_token]
      rfl

theorem afterRequests_scans (l : Lexer) (n : Nat) :
    l.afterRequests (List.replicate n .scan) = l.afterScans n := by
  induction n generalizing l with
  | zero => rfl
  | succ n ih =>
      rw [List.replicate_succ, afterRequests, ih, ← afterScans_scan]
      rfl

theorem Standing.answer {l : Lexer} {chars : List Char} (standing : l.Standing chars)
    (r : Request) : (l.answer r).2.Standing chars := by
  cases r with
  | scan => exact standing.scan
  | resolve | resolveAs | resolveToken => exact standing.withLiterals _
  | value | recorded | pending => exact standing

theorem Standing.inLine_issued {l : Lexer} {chars : List Char} (standing : l.Standing chars)
    (requests : List Request) : ∀ t ∈ l.issued requests, t.span.place.InLine chars := by
  induction requests generalizing l with
  | nil => simp [issued]
  | cons r requests ih =>
      intro t member
      rcases List.mem_append.1 member with now | later
      · cases r with
        | scan => exact standing.inLine_literal now
        | _ => cases now
      · exact ih (standing.answer r) t later

end Lexer

theorem LiteralTable.recorded?_of_resolveAs_error {table : LiteralTable} {handle : Nat}
    {raw : Bytes} {target : Target} {e : Error}
    (failed : (table.resolveAs handle raw target).1 = .error e) {d : Diagnostic}
    (made : Diagnostic.ofLiteral? e = some d) :
    ∃ own, table.recorded? handle = some (own, d.span) := by
  cases found : table.entry? handle with
  | none =>
      rw [resolveAs_unknown found] at failed
      cases failed
      cases made
  | some entry =>
      by_cases same : raw = entry.raw
      · subst same
        cases outcome : entry.outcome with
        | some fixed =>
            rw [resolveAs_resolved found outcome] at failed
            cases failed
            cases made
        | none =>
            rw [resolveAs_pending found outcome] at failed
            obtain ⟨reason, cause, rfl⟩ := Literal.literal_of_interpret_error failed
            cases made
            exact ⟨entry.raw, by rw [recorded?, found]; rfl⟩
      · rw [resolveAs_mismatch found same] at failed
        cases failed
        cases made

namespace LiteralTable.Tracks

variable {table : LiteralTable} {literals : List Token} {first : Nat → Option Target}

theorem exists_literal (tracks : table.Tracks literals first) {handle : Nat} {raw : Bytes}
    {span : Span} (recorded : table.recorded? handle = some (raw, span)) :
    ∃ t ∈ literals, t.span = span := by
  rw [tracks.recorded?_eq] at recorded
  split_ifs at recorded
  obtain ⟨t, found, same⟩ := Option.map_eq_some_iff.1 recorded
  exact ⟨t, List.mem_of_getElem? found, congrArg Prod.snd same⟩

theorem recorded?_of_value_error (tracks : table.Tracks literals first) {handle : Nat} {e : Error}
    (failed : table.value handle = .error e) {d : Diagnostic}
    (made : Diagnostic.ofLiteral? e = some d) :
    ∃ own, table.recorded? handle = some (own, d.span) := by
  rw [tracks.value_eq] at failed
  cases recorded : table.recorded? handle with
  | none =>
      rw [recorded] at failed
      cases failed
      cases made
  | some own =>
      simp only [recorded] at failed
      cases asked : first handle with
      | none =>
          rw [asked] at failed
          cases failed
          cases made
      | some target =>
          rw [asked] at failed
          obtain ⟨reason, cause, rfl⟩ := Literal.literal_of_interpret_error failed
          cases made
          exact ⟨own.1, rfl⟩

theorem exists_literal_of_error {l : Lexer} (tracks : l.literals.Tracks literals first)
    {r : Lexer.Request} {e : Error} (failed : (l.answer r).1 = .outcome (.error e))
    {d : Diagnostic} (made : Diagnostic.ofLiteral? e = some d) :
    ∃ t ∈ literals, t.span = d.span := by
  cases resolution : r.resolution? with
  | some named =>
      obtain ⟨handle, raw, target⟩ := named
      rw [Lexer.answer_of_resolution resolution] at failed
      obtain ⟨own, recorded⟩ :=
        recorded?_of_resolveAs_error (Lexer.Answer.outcome.inj failed) made
      exact tracks.exists_literal recorded
  | none =>
      cases r with
      | resolve | resolveAs => cases resolution
      | resolveToken =>
          rw [Lexer.answer_of_unasked resolution] at failed
          cases failed
          cases made
      | value handle =>
          obtain ⟨own, recorded⟩ :=
            tracks.recorded?_of_value_error (Lexer.Answer.outcome.inj failed) made
          exact tracks.exists_literal recorded
      | scan | recorded | pending => cases failed

end LiteralTable.Tracks

namespace Diagnostic

/-- A diagnostic starts at the scalar `c` of a line, which has `before` and `after` around it. It
has the line's number and the scalar's column; the line printed for it is that line, and what is
printed in front of the caret is as wide as what stands in front of the scalar. -/
structure Points (d : Diagnostic) (source : Source) (above before : List Char) (c : Char)
    (after below : List Char) : Prop where
  lined : Lined source.chars above before c after below
  start : d.span.start = (Utf8.encode (above ++ before)).length
  line : d.span.line = 1 + lineBreaks (above ++ before)
  column : d.span.column = 1 + before.length
  shown : lineAt source.text d.span.start = Utf8.encode (before ++ c :: after)
  padding : caretPadding (lineAt source.text d.span.start) d.span.column = before.map under

def Shows (d : Diagnostic) (source : Source) : Prop :=
  ∃ above before c after below, d.Points source above before c after below

theorem shows_of_inLine {source : Source} (encoded : source.text = Utf8.encode source.chars)
    {d : Diagnostic} (inLine : d.span.place.InLine source.chars) : d.Shows source := by
  obtain ⟨i, c, here, noBreak, place⟩ := inLine
  obtain ⟨above, before, after, below, lined, rfl⟩ := exists_lined here noBreak
  have whole : source.chars = (above ++ before) ++ c :: (after ++ below) := by
    rw [lined.whole]
    simp only [List.append_assoc, List.cons_append]
  have start : d.span.start = (Utf8.encode (above ++ before)).length := by
    rw [← Position.offset_within (above ++ before) (c :: (after ++ below)), ← whole, ← place]
    rfl
  have line : d.span.line = 1 + lineBreaks (above ++ before) := by
    have counted := Position.line_advance .first (above ++ before) noBreak (after ++ below)
    rw [← whole] at counted
    exact (congrArg Position.line place).trans counted
  have column : d.span.column = before.length + 1 := by
    rw [List.length_append] at place
    exact (congrArg Position.column place).trans lined.column_within
  have shown : lineAt source.text d.span.start = Utf8.encode (before ++ c :: after) := by
    rw [encoded, start, lineAt_encode lined]
  refine ⟨above, before, c, after, below, lined, start, line, column.trans (Nat.add_comm _ _),
    shown, ?_⟩
  rw [shown, column, caretPadding_encode]

end Diagnostic

/-- Every diagnostic of a well-formed source, and every diagnostic made of the error that a request
to a lexer of the source or to its literals is answered with, starts at a scalar of a line; its
place is counted and printed as that of this scalar. The literals of the tokenized source are those
that a lexer has found after some number of scans. -/
theorem diagnostics_point_at_scalars (name : Bytes) (settings : Settings) {input : Bytes}
    {source : Source} (decoded : Source.read input = .ok source) :
    let l := Lexer.start settings source
    (∀ d ∈ (tokenize name settings input).diagnostics, d.Shows source) ∧
      (∀ requests r e d, ((l.afterRequests requests).answer r).1 = .outcome (.error e) →
        Diagnostic.ofLiteral? e = some d → d.Shows source) ∧
      ∃ n, (tokenize name settings input).literals
        = (l.afterRequests (List.replicate n .scan)).literals := by
  intro l
  have encoded := (Source.read_eq_ok_iff.1 decoded).2
  refine ⟨?_, ?_, ?_⟩
  · intro d member
    obtain ⟨segments, ending, cut⟩ := exists_segmented settings.profile source.chars
    rw [(cut.outlined name decoded).diagnostics] at member
    apply Diagnostic.shows_of_inLine encoded
    rcases List.mem_append.1 member with lexeme | last
    · obtain ⟨x, placed, found⟩ := List.mem_filterMap.1 lexeme
      exact cut.inLine_diagnostic placed found
    · obtain ⟨e, failed, rfl⟩ := Option.map_eq_some_iff.1 (Option.mem_toList.1 last)
      exact cut.inLine_error failed
  · intro requests r e d failed made
    have tracks := Lexer.tracks_start settings source requests
    obtain ⟨t, issued, same⟩ := tracks.exists_literal_of_error failed made
    apply Diagnostic.shows_of_inLine encoded
    rw [← same]
    exact (Lexer.standing_start settings source).inLine_issued requests t issued
  · obtain ⟨n, scans⟩ := l.exists_scans
    refine ⟨n, ?_⟩
    rw [tokenize, decoded, Lexer.afterRequests_scans]
    exact congrArg (fun run => run.2.literals) scans

theorem diagnostics_point_at_scalars_behind_tab :
    let cs := ['a', '\r', '\n', '\t', 'b', '-', ' ', '"', 'x', '"']
    let raw := Utf8.encode ['"', 'x', '"']
    let source : Source := ⟨false, Utf8.encode cs, cs⟩
    let settings : Settings := ⟨[], .ascii⟩
    let found := (tokenize [] settings (Utf8.encode cs)).diagnostics
    let l := (Lexer.start settings source).afterRequests (List.replicate 3 .scan)
    Source.read (Utf8.encode cs) = .ok source ∧
      found.map Diagnostic.span = [⟨5, 6, 2, 3⟩] ∧ (∀ d ∈ found, d.Shows source) ∧
      ∃ e d, (l.answer (.resolve 1 raw true)).1 = .outcome (.error e) ∧
        Diagnostic.ofLiteral? e = some d ∧ d.span = ⟨7, 10, 2, 5⟩ ∧ d.Shows source := by
  intro cs raw source settings found l
  have decoded : Source.read (Utf8.encode cs) = .ok source := Source.read_encode (by decide)
  obtain ⟨scanned, resolved, _⟩ := diagnostics_point_at_scalars [] settings decoded
  have facts : found.map Diagnostic.span = [⟨5, 6, 2, 3⟩] ∧
      l.literals.recorded? 1 = some (raw, ⟨7, 10, 2, 5⟩) ∧
      (Lexer.start settings source).firstTarget? 1 (List.replicate 3 .scan) = none := by
    decide +kernel
  obtain ⟨spans, recorded, unasked⟩ := facts
  obtain ⟨entry, cell, same⟩ := Option.map_eq_some_iff.1 recorded
  have pending := (Lexer.tracks_start settings source _).entry?_eq_some cell
  rw [unasked, Option.map_none] at pending
  have outcome := LiteralTable.resolveAs_pending cell pending .oidIri
  rw [(Prod.mk.inj same).1, (Prod.mk.inj same).2] at outcome
  have failed := congrArg (fun reply => Lexer.Answer.outcome reply.1) outcome
  have pointed := resolved _ (.resolve 1 raw true) _ _ failed rfl
  exact ⟨decoded, spans, scanned, _, _, failed, rfl, rfl, pointed⟩

end AsnLexis
