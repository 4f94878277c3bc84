import AsnLexis.Proofs.Literals
import Mathlib

/-! Where a lexer is in its text. A scan is made of small moves, each the call of one helper: it goes
one scalar on, sets the anchor, or records something. No move by itself takes the lexer out of its
text or back in it, or the anchor past the current scalar. So this holds in all states that a run
goes through, also in the middle of a scan. -/

namespace AsnLexis

namespace Source

def numberAt (s : Source) (i : Nat) : Int := (s.at? i).elim endNumber (·.char.toNat)

theorem numberAt_eq (source : Source) (i : Nat) :
    source.numberAt i = source.chars[i]?.elim endNumber (·.toNat) := by
  rw [numberAt, at?_eq]
  cases source.chars[i]? <;> rfl

theorem numberAt_eq_endNumber_iff {source : Source} {i : Nat} :
    source.numberAt i = endNumber ↔ source.chars.length ≤ i := by
  rw [numberAt_eq]
  cases found : source.chars[i]? with
  | none => exact iff_of_true rfl (List.getElem?_eq_none_iff.1 found)
  | some c =>
      have inside := (List.getElem?_eq_some_iff.1 found).1
      apply iff_of_false
      · simp only [Option.elim_some, endNumber]
        omega
      · exact Nat.not_le.2 inside

end Source

namespace Lexer

/-- The call of one helper. What is emitted and what fails spans from the anchor to the current
scalar, and texts other than those of words are cut out of the source there. -/
inductive Move (l : Lexer) : Lexer → Prop
  | advance : Move l (l.forward 1)
  | setAnchor : Move l l.setAnchor
  | register : Move l { l with literals := l.literals.add (l.source.sliceSpan l.span) l.span }
  | report (e : Error) (span : Span) : Move l (l.report e span)
  | emit (t : Token) (spanned : t.span = l.span)
      (cut : t.identifier? = none → t.text = l.source.sliceSpan l.span) : Move l (l.emit t).2
  | fail (e : LexError) (spanned : e.span = l.span) : Move l (l.fail e).2
  | finish (ended : l.rest = []) : Move l l.finish.2

abbrev Moves : Lexer → Lexer → Prop := Relation.ReflTransGen Move

/-- The lexer reads `source`, its anchor is at scalar `anchor` and the current scalar is number
`pos`, and it has counted its diagnostics. -/
structure Located (l : Lexer) (source : Source) (anchor pos : Nat) : Prop where
  source_eq : l.source = source
  anchor_le : anchor ≤ pos
  pos_le : pos ≤ source.chars.length
  rest : l.rest = source.chars.drop pos
  here : l.here = Position.within source.chars pos
  anchored : l.anchor = Position.within source.chars anchor
  faults : l.faults = l.diagnostics.size

variable {l m : Lexer} {source : Source} {anchor pos : Nat}

theorem forward_end (ended : l.rest = []) : l.forward 1 = l := by
  rw [forward, ended]
  change { l with rest := [], here := l.here } = l
  rw [← ended]

namespace Located

theorem unique (located : l.Located source anchor pos) {other next : Nat}
    (again : l.Located source other next) : other = anchor ∧ next = pos := by
  constructor
  · apply Position.offset_within_inj (Nat.le_trans again.anchor_le again.pos_le)
      (Nat.le_trans located.anchor_le located.pos_le)
    rw [← again.anchored, ← located.anchored]
  · apply Position.offset_within_inj again.pos_le located.pos_le
    rw [← again.here, ← located.here]

theorem forward (located : l.Located source anchor pos) {n : Nat} (inside : n ≤ l.rest.length) :
    (l.forward n).Located source anchor (pos + n) := by
  have length : l.rest.length = source.chars.length - pos := by
    rw [located.rest, List.length_drop]
  refine ⟨located.source_eq, ?_, ?_, ?_, ?_, located.anchored, located.faults⟩
  · exact Nat.le_trans located.anchor_le (Nat.le_add_right pos n)
  · have bound := located.pos_le
    omega
  · rw [Lexer.forward, located.rest, List.drop_drop]
  · simp only [Lexer.forward]
    rw [located.here, located.rest]
    exact Position.advance_drop .first source.chars pos n

theorem setAnchor (located : l.Located source anchor pos) : l.setAnchor.Located source pos pos :=
  ⟨located.source_eq, Nat.le_refl pos, located.pos_le, located.rest, located.here, located.here,
    located.faults⟩

theorem recorded (located : l.Located source anchor pos) (source_eq : m.source = l.source)
    (rest : m.rest = l.rest) (here : m.here = l.here) (anchored : m.anchor = l.anchor)
    (faults : m.faults = m.diagnostics.size) : m.Located source anchor pos where
  source_eq := source_eq.trans located.source_eq
  anchor_le := located.anchor_le
  pos_le := located.pos_le
  rest := rest.trans located.rest
  here := here.trans located.here
  anchored := anchored.trans located.anchored
  faults := faults

theorem move (located : l.Located source anchor pos) (step : Move l m) :
    ∃ next further, pos ≤ further ∧ m.Located source next further := by
  -- Only `advance` moves on; the anchor moves to the current scalar or stays.
  cases step with
  | advance =>
      cases front : l.rest with
      | nil =>
          rw [forward_end front]
          exact ⟨anchor, pos, Nat.le_refl pos, located⟩
      | cons c cs =>
          have inside : 1 ≤ l.rest.length := by
            rw [front, List.length_cons]
            omega
          exact ⟨anchor, pos + 1, Nat.le_add_right pos 1, located.forward inside⟩
  | setAnchor => exact ⟨pos, pos, Nat.le_refl pos, located.setAnchor⟩
  | register =>
      exact ⟨anchor, pos, Nat.le_refl pos, located.recorded rfl rfl rfl rfl located.faults⟩
  | report e span =>
      have counted : l.faults + 1 = (l.diagnostics.push (.ofError e span)).size := by
        rw [Array.size_push, located.faults]
      exact ⟨anchor, pos, Nat.le_refl pos, located.recorded rfl rfl rfl rfl counted⟩
  | emit t =>
      exact ⟨anchor, pos, Nat.le_refl pos, located.recorded rfl rfl rfl rfl located.faults⟩
  | fail e =>
      have counted : l.faults + 1 = (l.diagnostics.push (.ofError (.lexical e) e.span)).size := by
        rw [Array.size_push, located.faults]
      exact ⟨anchor, pos, Nat.le_refl pos, located.recorded rfl rfl rfl rfl counted⟩
  | finish =>
      exact ⟨pos, pos, Nat.le_refl pos, located.setAnchor.recorded rfl rfl rfl rfl located.faults⟩

/-- Whatever helpers are called, the lexer stays in its text and does not go back in it. -/
theorem moves (located : l.Located source anchor pos) (run : Moves l m) :
    ∃ next further, pos ≤ further ∧ m.Located source next further := by
  induction run with
  | refl => exact ⟨anchor, pos, Nat.le_refl pos, located⟩
  | tail _ step ih =>
      obtain ⟨next, further, before, there⟩ := ih
      obtain ⟨last, final, after, located'⟩ := there.move step
      exact ⟨last, final, Nat.le_trans before after, located'⟩

end Located

theorem ne_endOfInput_of_plain {p : Profile} {c : Char} {rest : List Char} {kind : Kind}
    (plain : (Lexeme.read p c rest).reading = .plain kind) : kind ≠ .endOfInput := by
  rintro rfl
  exact Lexeme.kind_of_plain plain (by decide)

theorem take_ne_finish (l m : Lexer) (p : Profile) (c : Char) (rest lexeme : List Char) :
    (l.take c lexeme (Lexeme.read p c rest)).1 ≠ m.finish.1 := by
  unfold take
  cases reading : (Lexeme.read p c rest).reading with
  | plain kind => simp [emit, finish, ne_endOfInput_of_plain reading]
  | word id => by_cases reserved : isKeyword id.text <;> simp [emit, finish, reserved]
  | literal => simp [emit, finish]
  | badWord => simp [emit, finish]
  | malformed => simp [emit, finish]
  | fatal => simp [fail, finish]

/-- Where no trivia are in front, the input ends just when the current scalar is the end. -/
theorem next_eq_finish_iff (l : Lexer) : l.next = l.finish ↔ l.current = endNumber := by
  cases front : l.rest with
  | nil =>
      have ended : l.current = endNumber := by rw [current, front, List.head?_nil, Option.elim_none]
      exact iff_of_true (next_nil front) ended
  | cons c rest =>
      apply iff_of_false
      · intro finished
        have returned := congrArg Prod.fst finished
        rw [next_cons front] at returned
        exact take_ne_finish _ _ _ _ _ _ returned
      · simp only [current, front, List.head?_cons, Option.elim_some, endNumber]
        omega

/-- A lexer at its place: the current scalar is the source's, and it is the end only at the end; the
bytes from the anchor to the current scalar are in the text and encode the scalars between them. -/
structure InBounds (l : Lexer) (source : Source) (anchor pos : Nat) : Prop
    extends Located l source anchor pos where
  current : l.current = source.numberAt pos
  ended : l.current = endNumber ↔ pos = source.chars.length
  finishes : l.next = l.finish ↔ pos = source.chars.length
  takes : ∀ c : Char, l.current = c.toNat →
    let behind := source.chars.drop (pos + 1)
    let front := Lexeme.read l.profile c behind
    l.next = (l.setAnchor.forward (front.more + 1)).take c (c :: behind.take front.more) front
  start_le : l.span.start ≤ l.span.stop
  stop_le : l.span.stop ≤ source.text.length
  cut : source.sliceSpan l.span = Utf8.encode ((source.chars.drop anchor).take (pos - anchor))

namespace Located

theorem span_eq (located : l.Located source anchor pos) : l.span
    = (Position.within source.chars anchor).spanTo (Position.within source.chars pos) := by
  rw [Lexer.span, located.anchored, located.here]

theorem sliceSpan_span (located : l.Located source anchor pos)
    (encoded : source.text = Utf8.encode source.chars) :
    source.sliceSpan l.span = Utf8.encode ((source.chars.drop anchor).take (pos - anchor)) := by
  have inside := located.pos_le
  obtain ⟨n, rfl⟩ := Nat.exists_eq_add_of_le located.anchor_le
  rw [Nat.add_sub_cancel_left]
  have joined : source.chars.take anchor ++ (source.chars.drop anchor).take n
      = source.chars.take (anchor + n) := List.take_add.symm
  have split : source.chars = source.chars.take anchor ++ (source.chars.drop anchor).take n
      ++ source.chars.drop (anchor + n) := by
    rw [joined, List.take_append_drop]
  have start := offset_within_append (List.take_append_drop anchor source.chars).symm
  have stop := offset_within_append (List.take_append_drop (anchor + n) source.chars).symm
  rw [List.length_take_of_le (by omega)] at start stop
  rw [Source.sliceSpan, located.span_eq, Position.spanTo, start, stop, ← joined]
  exact Source.slice_eq encoded split

theorem inBounds (located : l.Located source anchor pos)
    (encoded : source.text = Utf8.encode source.chars) : l.InBounds source anchor pos := by
  have current : l.current = source.numberAt pos := by
    rw [Lexer.current, located.rest, List.head?_drop, Source.numberAt_eq]
  have ended : l.current = endNumber ↔ pos = source.chars.length := by
    rw [current, Source.numberAt_eq_endNumber_iff]
    have bound := located.pos_le
    omega
  refine ⟨located, current, ended, (next_eq_finish_iff l).trans ended, ?_, ?_, ?_,
    located.sliceSpan_span encoded⟩
  · intro c reads
    rw [next, reads, scalarOfNumber?_toNat, located.rest, List.tail_drop]
  · rw [located.span_eq]
    exact Position.offset_within_le source.chars located.anchor_le
  · rw [located.span_eq, ← Source.offset_within_length encoded]
    exact Position.offset_within_le source.chars located.pos_le

end Located

theorem moves_forward (l : Lexer) (n : Nat) : Moves l (l.forward n) := by
  induction n with
  | zero =>
      have still : l.forward 0 = l := by simp [forward]
      rw [still]
  | succ n ih =>
      have step : (l.forward n).forward 1 = l.forward (n + 1) := by
        simp only [forward, List.drop_drop, Position.advance_drop]
      apply ih.tail
      rw [← step]
      exact .advance

theorem moves_take {lexeme : List Char} (text : Utf8.encode lexeme = l.source.sliceSpan l.span)
    (c : Char) (front : Lexeme.Front) : Moves l (l.take c lexeme front).2 := by
  unfold take
  cases front.reading with
  | plain kind => exact .single (.emit _ rfl fun _ => text)
  | literal =>
      have added : Move l { l with literals := l.literals.add (Utf8.encode lexeme) l.span } := by
        rw [text]
        exact .register
      exact .tail (.single added) (.emit _ rfl fun _ => text)
  | word id =>
      apply Relation.ReflTransGen.single
      apply Move.emit _ rfl
      intro unnamed
      by_cases reserved : isKeyword id.text <;> simp [Token.identifier?, reserved] at unnamed
  | badWord index flaw => exact .tail (.single (.report _ _)) (.emit _ rfl fun _ => text)
  | malformed fault => exact .tail (.single (.report _ _)) (.emit _ rfl fun _ => text)
  | fatal fault => exact .single (.fail _ rfl)

namespace Located

theorem moves_next (located : l.Located source anchor pos)
    (encoded : source.text = Utf8.encode source.chars) : Moves l l.next.2 := by
  cases front : l.rest with
  | nil =>
      rw [next_nil front]
      exact .single (.finish front)
  | cons c rest =>
      -- The lexeme is in the text, so the lexer behind it is at its place again and cuts it out.
      have inside := Lexeme.more_le l.profile c rest
      rw [next_cons front]
      generalize Lexeme.read l.profile c rest = lexeme at inside ⊢
      have fits : lexeme.more + 1 ≤ l.setAnchor.rest.length := by
        change lexeme.more + 1 ≤ l.rest.length
        rw [front, List.length_cons]
        omega
      have behind := located.setAnchor.forward fits
      have text : Utf8.encode (c :: rest.take lexeme.more)
          = source.sliceSpan (l.setAnchor.forward (lexeme.more + 1)).span := by
        rw [behind.sliceSpan_span encoded, Nat.add_sub_cancel_left, ← located.rest, front,
          List.take_succ_cons]
      apply Relation.ReflTransGen.trans (.single .setAnchor)
      apply Relation.ReflTransGen.trans (moves_forward _ (lexeme.more + 1))
      apply moves_take
      rw [text, behind.source_eq]

theorem moves_scan (located : l.Located source anchor pos)
    (encoded : source.text = Utf8.encode source.chars) : Moves l l.scan.2 := by
  unfold scan
  cases l.final with
  | some last => exact .refl
  | none =>
      cases Trivia.gap l.rest with
      | unclosed n =>
          apply Relation.ReflTransGen.trans (moves_forward l n)
          apply Relation.ReflTransGen.trans (.single .setAnchor)
          exact .tail (moves_forward _ _) (.fail _ rfl)
      | closed n =>
          obtain ⟨_, _, _, behind⟩ := located.moves (moves_forward l n)
          exact .trans (moves_forward l n) (behind.moves_next encoded)

end Located

theorem located_start (settings : Settings) (source : Source) :
    (start settings source).Located source 0 0 := by
  obtain ⟨rest, here, _⟩ := reads_start settings source
  unfold start at *
  dsimp only at *
  split_ifs at * <;> exact ⟨rfl, Nat.le_refl 0, Nat.zero_le _, rest, here, here, rfl⟩

theorem moves_afterScans (settings : Settings)
    (encoded : source.text = Utf8.encode source.chars) (n : Nat) :
    Moves (start settings source) ((start settings source).afterScans n) := by
  induction n with
  | zero => exact .refl
  | succ n ih =>
      obtain ⟨_, _, _, there⟩ := (located_start settings source).moves ih
      exact .trans ih (there.moves_scan encoded)

theorem tokens_take (l : Lexer) (p : Profile) (c : Char) (rest lexeme : List Char) :
    (l.take c lexeme (Lexeme.read p c rest)).2.tokens
      = l.tokens + if (l.take c lexeme (Lexeme.read p c rest)).1.isLast then 0 else 1 := by
  unfold take
  cases reading : (Lexeme.read p c rest).reading with
  | plain kind =>
      simp [emit, trace, note, Scanned.isLast, ne_endOfInput_of_plain reading]
  | word id =>
      by_cases reserved : isKeyword id.text <;> simp [emit, trace, note, Scanned.isLast, reserved]
  | literal => rfl
  | badWord => rfl
  | malformed => rfl
  | fatal => rfl

theorem Standing.tokens {chars : List Char} (standing : l.Standing chars) :
    l.scan.2.tokens = l.tokens + if l.scan.1.isLast then 0 else 1 := by
  cases standing with
  | stopped cut final =>
      rw [scan_of_final final, Ending.isLast_scanned]
      rfl
  | going i reads =>
      unfold Lexer.scan
      rw [reads.going]
      cases Trivia.gap l.rest with
      | unclosed n => rfl
      | closed n =>
          cases front : (l.forward n).rest with
          | nil =>
              simp only [next_nil front]
              rfl
          | cons c rest =>
              simp only [next_cons front]
              exact tokens_take _ _ _ _ _

theorem Standing.tokens_afterScans {chars : List Char} (standing : l.Standing chars) (n : Nat) :
    (l.afterScans n).tokens
      = l.tokens + ((l.tokensBefore n).filter (·.kind ≠ .endOfInput)).length := by
  induction n with
  | zero => rfl
  | succ n ih =>
      rw [tokensBefore_succ, List.filter_append, List.length_append, ← Nat.add_assoc, ← ih,
        afterScans, (standing.scans n).tokens, returned]
      cases (l.afterScans n).scan.1 with
      | fatal e => rfl
      | token t =>
          by_cases last : t.kind = .endOfInput <;> simp [Scanned.token?, Scanned.isLast, last]

end Lexer

/-- Every scan of a well-formed source is a run of moves. In all states that moves lead to from the
start, those before, after and within scans among them, the anchor is not past the current scalar
and that is not past the end of the text; the current scalar is the one of the source there, and is
the end only at the end; and what is cut out of the text lies within it. No moves lead back in the
text. Before and after each scan the faults counted are as many as the diagnostics, and the tokens
counted as many as were returned, the end of the input not among them. -/
theorem scans_keep_place (settings : Settings) {input : Bytes} {source : Source}
    (decoded : Source.read input = .ok source) :
    let l := Lexer.start settings source
    (∀ n, Lexer.Moves l (l.afterScans n) ∧ Lexer.Moves (l.afterScans n) (l.afterScans (n + 1))) ∧
      (∀ m, Lexer.Moves l m → ∃ anchor pos, m.InBounds source anchor pos) ∧
      (∀ m later, Lexer.Moves l m → Lexer.Moves m later → ∀ anchor pos next further,
        m.Located source anchor pos → later.Located source next further → pos ≤ further) ∧
      ∀ n, (l.afterScans n).faults = (l.afterScans n).diagnostics.size ∧
        (l.afterScans n).tokens = ((l.tokensBefore n).filter (·.kind ≠ .endOfInput)).length := by
  intro l
  have encoded := (Source.read_eq_ok_iff.1 decoded).2
  have started := Lexer.located_start settings source
  have scans := Lexer.moves_afterScans settings encoded
  refine ⟨?_, ?_, ?_, ?_⟩
  · intro n
    obtain ⟨_, _, _, there⟩ := started.moves (scans n)
    exact ⟨scans n, there.moves_scan encoded⟩
  · intro m run
    obtain ⟨anchor, pos, _, there⟩ := started.moves run
    exact ⟨anchor, pos, there.inBounds encoded⟩
  · intro m later _ run anchor pos next further there located
    obtain ⟨other, final, order, again⟩ := there.moves run
    obtain ⟨_, rfl⟩ := located.unique again
    exact order
  · intro n
    obtain ⟨_, _, _, there⟩ := started.moves (scans n)
    refine ⟨there.faults, ?_⟩
    have counted := (Lexer.standing_start settings source).tokens_afterScans n
    have none : (Lexer.start settings source).tokens = 0 := by
      unfold Lexer.start
      dsimp only
      split_ifs <;> rfl
    rwa [none, Nat.zero_add] at counted

theorem scans_keep_place_open_string :
    let cs := ['.', '#', '"']
    let source : Source := ⟨false, Utf8.encode cs, cs⟩
    let l := Lexer.start ⟨[], .ascii⟩ source
    Source.read (Utf8.encode cs) = .ok source ∧ Lexer.Moves l (l.afterScans 1) ∧
      Lexer.Moves (l.afterScans 1) (l.afterScans 3) ∧ (l.afterScans 1).Located source 0 1 ∧
      (l.afterScans 3).InBounds source 2 3 ∧ 1 ≤ 3 ∧ (l.afterScans 3).diagnostics.size = 2 ∧
      (l.afterScans 3).faults = 2 ∧ (l.afterScans 3).tokens = 2 := by
  intro cs source l
  have decoded : Source.read (Utf8.encode cs) = .ok source := Source.read_encode (by decide)
  obtain ⟨scans, inBounds, onward, counted⟩ := scans_keep_place ⟨[], .ascii⟩ decoded
  have first : (l.afterScans 1).Located source 0 1 := by
    constructor <;> decide +kernel
  have last : (l.afterScans 3).Located source 2 3 := by
    constructor <;> decide +kernel
  have run : Lexer.Moves (l.afterScans 1) (l.afterScans 3) := (scans 1).2.trans (scans 2).2
  obtain ⟨anchor, pos, there⟩ := inBounds (l.afterScans 3) (scans 3).1
  obtain ⟨rfl, rfl⟩ := last.unique there.toLocated
  have size : (l.afterScans 3).diagnostics.size = 2 := by decide +kernel
  have returned : ((l.tokensBefore 3).filter (·.kind ≠ .endOfInput)).length = 2 := by
    decide +kernel
  exact ⟨decoded, (scans 1).1, run, first, there, onward _ _ (scans 1).1 run 0 1 2 3 first last,
    size, (counted 3).1.trans size, (counted 3).2.trans returned⟩

end AsnLexis
