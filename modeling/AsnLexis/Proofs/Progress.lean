import AsnLexis.Proofs.Diagnostics
import Mathlib

/-! Scan after scan. A scan passes a lexeme and goes on behind it, or it is the last one; whatever
the last one returns, all later ones return too. -/

namespace AsnLexis

def Scanned.isLast : Scanned → Bool
  | .token t => t.kind == .endOfInput
  | .fatal _ => true

theorem Ending.isLast_scanned (chars : List Char) (i : Nat) (ending : Ending) :
    (ending.scanned chars i).isLast := by
  cases ending <;> rfl

theorem Segmented.isFatal_scanned {p : Profile} {cs chars : List Char} {segments : List Segment}
    {ending : Ending} (cut : Segmented p cs segments ending) {i : Nat} {e : LexError}
    (failed : ending.scanned chars i = .fatal e) : (Error.lexical e).isFatal := by
  cases ending with
  | finished gap => cases failed
  | fatal gap head tail left fault =>
      have reason : e.reason = .fault fault := by
        cases failed
        rfl
      exact cut.fatal_ofError reason e.span

namespace Lexer

/-- What a scan at scalar `i` of `chars` can do: it returns the token of the next lexeme and goes on
behind it, or it returns the ending and stops. -/
inductive Steps (l : Lexer) (chars : List Char) (i : Nat) : Scanned → Lexer → Prop
  | passed {x : Placed} {left : List Char} {after : Lexer} (ahead : i ≤ x.start)
      (numbered : x.literals = l.literals.size)
      (lexeme : chars.drop x.start = x.segment.lexeme ++ left)
      (read : Lexeme.read l.profile x.segment.head (x.segment.tail ++ left)
        = ⟨x.segment.tail.length, x.segment.reading⟩)
      (mild : ∀ fault, x.segment.reading ≠ .fatal fault) (passes : Passes l after chars x) :
      Steps l chars i (.token (x.token chars)) after
  | ended {ending : Ending} {after : Lexer}
      (cut : Segmented l.profile (chars.drop i) [] ending)
      (ends : Ends l after (ending.scanned chars i)) : Steps l chars i (ending.scanned chars i) after

theorem scan_steps {l : Lexer} {chars : List Char} {i : Nat} (reads : l.Reads chars i) :
    Steps l chars i l.scan.1 l.scan.2 := by
  obtain ⟨segments, ending, cut⟩ := exists_segmented l.profile (chars.drop i)
  generalize split : chars.drop i = cs at cut
  cases cut with
  | finished trivia =>
      obtain ⟨returned, ends⟩ := scan_finished reads split trivia
      rw [returned]
      exact .ended (by rw [split]; exact .finished trivia) ends
  | unclosed trivia =>
      obtain ⟨returned, ends⟩ := scan_open reads split trivia
      rw [returned]
      exact .ended (by rw [split]; exact .unclosed trivia) ends
  | fatal trivia read =>
      obtain ⟨returned, ends⟩ := scan_fatal reads split trivia read
      rw [returned]
      exact .ended (by rw [split]; exact .fatal trivia read) ends
  | segment trivia read mild more =>
      obtain ⟨returned, passes⟩ := scan_segment reads split trivia read mild
      rw [returned]
      exact .passed (Nat.le_add_right _ _) rfl (drop_add_length split) read mild passes

theorem scan_of_final {l : Lexer} {last : Scanned} (final : l.final = some last) :
    l.scan = (last, l) := by
  rw [scan, final]

/-- A lexer goes on at some scalar of the text, or it has stopped at an ending. -/
inductive Standing (l : Lexer) (chars : List Char) : Prop
  | going (i : Nat) (reads : l.Reads chars i)
  | stopped {p : Profile} {i : Nat} {ending : Ending} (cut : Segmented p (chars.drop i) [] ending)
      (final : l.final = some (ending.scanned chars i))

theorem Standing.scan {l : Lexer} {chars : List Char} (standing : l.Standing chars) :
    l.scan.2.Standing chars := by
  cases standing with
  | stopped cut final =>
      rw [scan_of_final final]
      exact .stopped cut final
  | going i reads =>
      have steps := scan_steps reads
      generalize l.scan.1 = scanned, l.scan.2 = after at steps
      cases steps with
      | passed _ _ _ _ _ passes => exact .going _ passes.reads
      | ended cut ends => exact .stopped cut ends.final

theorem Standing.final_of_isLast {l : Lexer} {chars : List Char} (standing : l.Standing chars)
    (isLast : l.scan.1.isLast) : l.scan.2.final = some l.scan.1 := by
  cases standing with
  | stopped cut final =>
      rw [scan_of_final final]
      exact final
  | going i reads =>
      have steps := scan_steps reads
      generalize l.scan.1 = scanned, l.scan.2 = after at steps isLast ⊢
      cases steps with
      | passed _ _ _ read =>
          have other := Placed.kind_ne_endOfInput chars read
          exact absurd (beq_iff_eq.1 isLast) other
      | ended _ ends => exact ends.final

theorem Standing.isFatal {l : Lexer} {chars : List Char} (standing : l.Standing chars)
    {e : LexError} (failed : l.scan.1 = .fatal e) : (Error.lexical e).isFatal := by
  have final := standing.final_of_isLast (by rw [failed]; rfl)
  cases standing.scan with
  | going i reads =>
      rw [reads.going] at final
      cases final
  | stopped cut same =>
      rw [final, Option.some.injEq] at same
      exact cut.isFatal_scanned (same.symm.trans failed)

theorem Standing.consumes {l : Lexer} {chars : List Char} (standing : l.Standing chars)
    (more : ¬ l.scan.1.isLast) :
    ∃ k, 0 < k ∧ k ≤ l.rest.length ∧ l.scan.2.rest = l.rest.drop k := by
  cases standing with
  | stopped cut final =>
      rw [scan_of_final final] at more
      exact absurd (Ending.isLast_scanned chars _ _) more
  | going i reads =>
      have steps := scan_steps reads
      generalize l.scan.1 = scanned, l.scan.2 = after at steps more ⊢
      cases steps with
      | @passed x left after ahead _ lexeme _ _ passes =>
          have length := congrArg List.length lexeme
          rw [List.length_drop, List.length_append] at length
          have wide : 0 < x.segment.lexeme.length := Nat.succ_pos _
          have stop : x.stop = x.start + x.segment.lexeme.length := rfl
          refine ⟨x.stop - i, by omega, ?_, ?_⟩
          · rw [reads.rest, List.length_drop]
            omega
          · rw [passes.reads.rest, reads.rest, List.drop_drop]
            congr 1
            omega
      | ended => exact absurd (Ending.isLast_scanned chars i _) more

def afterScans (l : Lexer) : Nat → Lexer
  | 0 => l
  | n + 1 => (l.afterScans n).scan.2

def returned (l : Lexer) (n : Nat) : Scanned := (l.afterScans n).scan.1

theorem Standing.scans {l : Lexer} {chars : List Char} (standing : l.Standing chars) (n : Nat) :
    (l.afterScans n).Standing chars := by
  induction n with
  | zero => exact standing
  | succ n ih => exact ih.scan

theorem length_afterScans (l : Lexer) (n : Nat) (going : (l.afterScans n).final = none) :
    (l.afterScans n).rest.length + n ≤ l.rest.length := by
  induction n with
  | zero => exact Nat.le_refl _
  | succ n ih =>
      have before : (l.afterScans n).final = none := by
        cases final : (l.afterScans n).final with
        | none => rfl
        | some last =>
            rw [afterScans, scan_of_final final, final] at going
            cases going
      have less := scan_shortens (l.afterScans n) going
      have bound := ih before
      rw [afterScans]
      omega

/-- Scans of a text with `length` scalars get on through it, stop within it, and then stay as they
are. -/
structure Settles (l : Lexer) (length : Nat) : Prop where
  consumes : ∀ n t, l.returned n = .token t → t.kind ≠ .endOfInput →
    ∃ k, 0 < k ∧ k ≤ (l.afterScans n).rest.length ∧
      (l.afterScans (n + 1)).rest = (l.afterScans n).rest.drop k
  stops : ∃ n ≤ length, (l.returned n).isLast
  stays : ∀ n m, (l.returned n).isLast → n ≤ m →
    l.returned m = l.returned n ∧ l.afterScans (m + 1) = l.afterScans (n + 1)
  fatal : ∀ n e, l.returned n = .fatal e → (Error.lexical e).isFatal

theorem Standing.stops {l : Lexer} {chars : List Char} (standing : l.Standing chars) :
    (l.returned l.rest.length).isLast := by
  by_contra more
  obtain ⟨k, positive, bound, _⟩ := (standing.scans l.rest.length).consumes more
  cases standing.scans l.rest.length with
  | going i reads =>
      have used := length_afterScans l _ reads.going
      omega
  | stopped cut final =>
      rw [returned, scan_of_final final] at more
      exact more (Ending.isLast_scanned chars _ _)

theorem Standing.stays {l : Lexer} {chars : List Char} (standing : l.Standing chars) {n : Nat}
    (isLast : (l.returned n).isLast) (d : Nat) :
    l.returned (n + d) = l.returned n ∧ l.afterScans (n + d + 1) = l.afterScans (n + 1) := by
  have final : (l.afterScans (n + 1)).final = some (l.returned n) :=
    (standing.scans n).final_of_isLast isLast
  have fixed := scan_of_final final
  induction d with
  | zero => exact ⟨rfl, rfl⟩
  | succ d ih =>
      constructor
      · rw [returned, ← Nat.add_assoc, ih.2, fixed]
      · rw [← Nat.add_assoc, afterScans, ih.2, fixed]

theorem Standing.settles {l : Lexer} {chars : List Char} (standing : l.Standing chars) :
    l.Settles l.rest.length where
  consumes n t token other := by
    apply (standing.scans n).consumes
    rw [← returned, token]
    simpa [Scanned.isLast] using other
  stops := ⟨_, Nat.le_refl _, standing.stops⟩
  stays n m isLast later := by
    obtain ⟨d, rfl⟩ := Nat.exists_eq_add_of_le later
    exact standing.stays isLast d
  fatal n _ failed := (standing.scans n).isFatal failed

theorem standing_start (settings : Settings) (source : Source) :
    (start settings source).Standing source.chars :=
  .going 0 (reads_start settings source)

theorem profile_take (l : Lexer) (c : Char) (lexeme : List Char) (front : Lexeme.Front) :
    (l.take c lexeme front).2.profile = l.profile := by
  unfold take
  split <;> rfl

theorem profile_scan (l : Lexer) : l.scan.2.profile = l.profile := by
  unfold scan
  split
  next => rfl
  next =>
    split
    next => rfl
    next n =>
      unfold next
      split
      next => rfl
      next c here => exact profile_take _ _ _ _

theorem profile_afterScans (l : Lexer) (n : Nat) : (l.afterScans n).profile = l.profile := by
  induction n with
  | zero => rfl
  | succ n ih => rw [afterScans, profile_scan, ih]

theorem split_of_drop {chars left : List Char} {x : Placed}
    (lexeme : chars.drop x.start = x.segment.lexeme ++ left) :
    ∃ before, chars = before ++ (x.segment.lexeme ++ left) ∧ before.length = x.start := by
  have inside : x.start < chars.length := by
    by_contra outside
    rw [List.drop_of_length_le (Nat.not_lt.1 outside)] at lexeme
    cases lexeme
  refine ⟨chars.take x.start, ?_, List.length_take_of_le (Nat.le_of_lt inside)⟩
  rw [← lexeme, List.take_append_drop]

structure Stands (p : Profile) (chars : List Char) (x : Placed) (left : List Char) : Prop where
  lexeme : chars.drop x.start = x.segment.lexeme ++ left
  read : Lexeme.read p x.segment.head (x.segment.tail ++ left)
    = ⟨x.segment.tail.length, x.segment.reading⟩
  mild : ∀ fault, x.segment.reading ≠ .fatal fault

theorem Standing.token_cases {l : Lexer} {chars : List Char} (standing : l.Standing chars)
    {t : Token} (token : l.scan.1 = .token t) :
    (t.kind = .endOfInput ∧ t.span.stop = t.span.start) ∨
      ∃ x left, Stands l.profile chars x left ∧ t = x.token chars := by
  have last {i : Nat} {ending : Ending} (same : ending.scanned chars i = .token t) :
      t.kind = .endOfInput ∧ t.span.stop = t.span.start := by
    cases ending with
    | fatal => cases same
    | finished gap =>
        cases same
        exact ⟨rfl, rfl⟩
  cases standing with
  | stopped cut final =>
      rw [scan_of_final final] at token
      exact .inl (last token)
  | going i reads =>
      have steps := scan_steps reads
      generalize l.scan.1 = scanned, l.scan.2 = after at steps token
      cases steps with
      | ended cut ends => exact .inl (last token)
      | passed ahead numbered lexeme read mild passes =>
          cases token
          exact .inr ⟨_, _, ⟨lexeme, read, mild⟩, rfl⟩

theorem Standing.front_cases {l : Lexer} {chars : List Char} (standing : l.Standing chars)
    (going : l.final = none) {k : Nat} {head : Char} {rest : List Char}
    (front : l.rest.drop k = head :: rest) :
    ∃ i gap, l.Reads chars i ∧ chars.drop i = gap ++ head :: rest ∧ gap.length = k := by
  cases standing with
  | stopped cut final =>
      rw [going] at final
      cases final
  | going i reads =>
      have short : k ≤ l.rest.length := by
        by_contra long
        rw [List.drop_of_length_le (Nat.le_of_not_le long)] at front
        cases front
      refine ⟨i, l.rest.take k, reads, ?_, List.length_take_of_le short⟩
      rw [← front, List.take_append_drop, reads.rest]

theorem Standing.scan_passes {l : Lexer} {chars : List Char} (standing : l.Standing chars)
    (going : l.final = none) {k : Nat} {tail left : List Char} {head : Char}
    {reading : Lexeme.Reading} (trivia : Trivia.gap l.rest = .closed k)
    (front : l.rest.drop k = head :: (tail ++ left))
    (read : Lexeme.read l.profile head (tail ++ left) = ⟨tail.length, reading⟩)
    (mild : ∀ fault, reading ≠ .fatal fault) :
    ∃ x, x.segment.lexeme = head :: tail ∧ x.segment.reading = reading ∧
      Stands l.profile chars x left ∧ l.scan.1 = .token (x.token chars) ∧
      Passes l l.scan.2 chars x := by
  obtain ⟨i, gap, reads, split, rfl⟩ := standing.front_cases going front
  rw [reads.rest, split] at trivia
  obtain ⟨token, passes⟩ := scan_segment reads split trivia read mild
  exact ⟨_, rfl, rfl, ⟨drop_add_length split, read, mild⟩, token, passes⟩

theorem Standing.scan_front {l : Lexer} {chars : List Char} (standing : l.Standing chars)
    (going : l.final = none) {k : Nat} {tail left : List Char} {head : Char}
    {reading : Lexeme.Reading} (trivia : Trivia.gap l.rest = .closed k)
    (front : l.rest.drop k = head :: (tail ++ left))
    (read : Lexeme.read l.profile head (tail ++ left) = ⟨tail.length, reading⟩) :
    (∃ fault e, reading = .fatal fault ∧ l.scan.1 = .fatal e ∧ e.reason = .fault fault) ∨
      ∃ x, x.segment.lexeme = head :: tail ∧ x.segment.reading = reading ∧
        Stands l.profile chars x left ∧ l.scan.1 = .token (x.token chars) := by
  by_cases mild : ∀ fault, reading ≠ .fatal fault
  · obtain ⟨x, lexeme, same, stands, token, _⟩ :=
      standing.scan_passes going trivia front read mild
    exact .inr ⟨x, lexeme, same, stands, token⟩
  · push Not at mild
    obtain ⟨fault, rfl⟩ := mild
    obtain ⟨i, gap, reads, split, rfl⟩ := standing.front_cases going front
    rw [reads.rest, split] at trivia
    exact .inl ⟨fault, _, rfl, (scan_fatal reads split trivia read).1, rfl⟩

end Lexer

/-- Every scan of a source that returns a token other than the end of the input takes at least one
scalar; the scan behind as many others as there are scalars, if not one before it, returns the end
of the input or an error that stops the scan; all later scans return the same and leave the whole
lexer as it is. What begins with a punctuation character is always read as a mark. -/
theorem scans_settle (settings : Settings) (source : Source) :
    (Lexer.start settings source).Settles source.chars.length ∧
      ∀ c rest, isPunctuation c → ∃ spelling kind,
        Kind.operator? (c :: rest) = some (spelling, kind) ∧
          Lexeme.read settings.profile c rest = ⟨spelling.length - 1, .plain kind⟩ := by
  have settles := (Lexer.standing_start settings source).settles
  rw [(Lexer.reads_start settings source).rest] at settles
  exact ⟨settles, fun c rest mark => Lexeme.read_punctuation settings.profile mark rest⟩

end AsnLexis
