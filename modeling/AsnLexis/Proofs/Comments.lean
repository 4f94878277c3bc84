import AsnLexis.Proofs.Progress
import Mathlib

/-! Block comments nest. The lexer counts how many are open. Here they are read one inside the
other instead, and both stop at the same scalar, or both reach the end of the text. -/

namespace AsnLexis

namespace Trivia

theorem length_behind_nested {rest behind after : List Char} (inner : behind.length < rest.length)
    (outer : after.length < behind.length) : after.length < ('/' :: '*' :: rest).length := by
  simp only [List.length_cons]
  omega

theorem length_behind_closer (rest : List Char) : rest.length < ('*' :: '/' :: rest).length := by
  simp only [List.length_cons]
  omega

theorem length_behind_cons {c : Char} {rest after : List Char}
    (less : after.length < rest.length) : after.length < (c :: rest).length :=
  Nat.lt_succ_of_lt less

/-- Reads on behind the opener of a comment up to behind its closer. At another opener a comment
inside this one is read first. -/
def closing (cs : List Char) : Option { after : List Char // after.length < cs.length } :=
  match cs with
  | [] => none
  | '/' :: '*' :: rest =>
    match closing rest with
    | none => none
    | some ⟨behind, inner⟩ =>
      match closing behind with
      | none => none
      | some ⟨after, outer⟩ => some ⟨after, length_behind_nested inner outer⟩
  | '*' :: '/' :: rest => some ⟨rest, length_behind_closer rest⟩
  | _ :: rest => (closing rest).map fun ⟨after, less⟩ => ⟨after, length_behind_cons less⟩
termination_by cs.length
decreasing_by
  · simp only [List.length_cons]; omega
  · simp only [List.length_cons]; omega
  · simp only [List.length_cons]; omega

/-- What stands behind the closer of a comment whose opener stands in front of `cs`; none when the
text ends with a comment open. -/
def comment? (cs : List Char) : Option (List Char) := (closing cs).map Subtype.val

theorem comment?_nil : comment? [] = none := by rw [comment?, closing]; rfl

theorem comment?_closer (rest : List Char) : comment? ('*' :: '/' :: rest) = some rest := by
  rw [comment?, closing]; rfl

theorem comment?_opener (rest : List Char) :
    comment? ('/' :: '*' :: rest) = (comment? rest).bind comment? := by
  rw [comment?, closing, comment?]
  cases closing rest with
  | none => rfl
  | some behind =>
      simp only [Option.map_some, Option.bind_some, comment?]
      cases closing behind.1 <;> rfl

theorem comment?_cons {c : Char} {rest : List Char}
    (noOpener : ∀ more, c = '/' → rest = '*' :: more → False)
    (noCloser : ∀ more, c = '*' → rest = '/' :: more → False) :
    comment? (c :: rest) = comment? rest := by
  rw [comment?, closing, comment?, Option.map_map]
  · rfl
  · exact noOpener
  · exact noCloser

theorem comment?_length {cs after : List Char} (found : comment? cs = some after) :
    after.length < cs.length := by
  obtain ⟨⟨_, less⟩, _, rfl⟩ := Option.map_eq_some_iff.1 found
  exact less

/-- Counting the open comments reads each of them to its closer. -/
theorem blockComment_succ (depth : Nat) (cs : List Char) :
    blockComment (depth + 1) cs = (comment? cs).bind fun after =>
      (blockComment depth after).map (· + (cs.length - after.length)) := by
  -- Along the reader. Where it reads a comment inside another one the count is one deeper, so all
  -- cases are for any depth.
  fun_induction closing cs generalizing depth with
  | case1 =>
      rw [comment?_nil]
      rfl
  | case2 rest none ih =>
      have inner : comment? rest = Option.none := by rw [comment?, none]; rfl
      rw [blockComment, ih, comment?_opener, inner]
      rfl
  | case3 rest behind less found none ih ih' =>
      have inner : comment? rest = some behind := by rw [comment?, found]; rfl
      have outer : comment? behind = Option.none := by rw [comment?, none]; rfl
      rw [blockComment, ih, comment?_opener, inner, Option.bind_some, ih', Option.bind_some, outer]
      rfl
  | case4 rest behind less found after less' found' ih ih' =>
      have inner : comment? rest = some behind := by rw [comment?, found]; rfl
      have outer : comment? behind = some after := by rw [comment?, found']; rfl
      rw [blockComment, ih, comment?_opener, inner, Option.bind_some, ih', Option.bind_some, outer,
        Option.bind_some, Option.bind_some, Option.map_map, Option.map_map]
      refine Option.map_congr fun n _ => ?_
      simp only [Function.comp_apply, List.length_cons]
      omega
  | case5 rest =>
      rw [blockComment, comment?_closer, Option.bind_some]
      refine Option.map_congr fun n _ => ?_
      simp only [List.length_cons]
      omega
  | case6 c rest noOpener noCloser ih =>
      rw [blockComment, ih, comment?_cons noOpener noCloser]
      · cases found : comment? rest with
        | none => rfl
        | some after =>
            have less := comment?_length found
            rw [Option.bind_some, Option.bind_some, Option.map_map]
            refine Option.map_congr fun n _ => ?_
            simp only [Function.comp_apply, List.length_cons]
            omega
      · exact noOpener
      · exact noCloser

theorem comment?_suffix {cs after : List Char} (found : comment? cs = some after) :
    after <:+ cs := by
  fun_induction closing cs generalizing after with
  | case1 =>
      rw [comment?_nil] at found
      cases found
  | case2 rest none ih =>
      rw [comment?_opener, comment?, none] at found
      cases found
  | case3 rest behind less inner none ih ih' =>
      rw [comment?_opener, comment?, inner, Option.map_some, Option.bind_some, comment?,
        none] at found
      cases found
  | case4 rest behind less inner last less' outer ih ih' =>
      have front : behind <:+ rest := ih (by rw [comment?, inner]; rfl)
      rw [comment?_opener, comment?, inner, Option.map_some, Option.bind_some] at found
      exact (ih' found).trans (front.trans (List.suffix_append ['/', '*'] rest))
  | case5 rest =>
      rw [comment?_closer, Option.some.injEq] at found
      exact found ▸ List.suffix_append ['*', '/'] rest
  | case6 c rest noOpener noCloser ih =>
      rw [comment?_cons noOpener noCloser] at found
      exact (ih found).trans (List.suffix_cons c rest)

theorem comment?_of_body {body : List Char} (grammar : CommentBody body) (after : List Char) :
    comment? (body ++ '*' :: '/' :: after) = some after := by
  induction grammar generalizing after with
  | empty => exact comment?_closer after
  | @scalar c body noOpener noCloser rest ih =>
      have front : c :: (body ++ ['*', '/']) <+: c :: (body ++ '*' :: '/' :: after) :=
        ⟨after, by simp⟩
      have apart {pair : List Char} (two : pair.length = 2)
          (absent : ¬ pair <+: c :: (body ++ ['*', '/'])) :
          ¬ pair <+: c :: (body ++ '*' :: '/' :: after) := fun present =>
        absent (List.prefix_of_prefix_length_le present front (by simp [two]))
      rw [List.cons_append, comment?_cons, ih]
      · rintro more rfl same
        exact apart rfl noOpener ⟨more, by rw [same]; rfl⟩
      · rintro more rfl same
        exact apart rfl noCloser ⟨more, by rw [same]; rfl⟩
  | @nested inner body _ _ ih ih' =>
      have split : '/' :: '*' :: (inner ++ '*' :: '/' :: body) ++ '*' :: '/' :: after
          = '/' :: '*' :: (inner ++ '*' :: '/' :: (body ++ '*' :: '/' :: after)) := by simp
      rw [split, comment?_opener, ih, Option.bind_some, ih']

theorem item_opener (cs : List Char) :
    item ('/' :: '*' :: cs) = match comment? cs with
      | some after => .length (cs.length - after.length + 2)
      | none => .unclosed := by
  rw [item, blockComment_succ]
  cases comment? cs with
  | none => rfl
  | some after => simp [blockComment]

theorem item_eq_unclosed {cs : List Char} (unclosed : item cs = .unclosed) :
    ∃ rest, cs = '/' :: '*' :: rest ∧ comment? rest = none := by
  fun_cases item cs with
  | case3 rest never =>
      refine ⟨rest, rfl, ?_⟩
      rw [item_opener] at unclosed
      cases found : comment? rest with
      | none => rfl
      | some after =>
          rw [found] at unclosed
          cases unclosed
  | _ => simp_all [item]

/-- A comment whose opener stands in front of `cs` is trivia up to where reading the comments in it
one inside the other stops, or is unclosed where this reading comes to the end of the text. -/
structure Reaches (cs : List Char) : Prop where
  unclosed : item ('/' :: '*' :: cs) = .unclosed ↔ comment? cs = none
  closed : ∀ after, comment? cs = some after → ∃ comment, '/' :: '*' :: cs = comment ++ after ∧
    item ('/' :: '*' :: cs) = .length comment.length

theorem reaches (cs : List Char) : Reaches cs where
  unclosed := by
    rw [item_opener]
    cases comment? cs <;> simp
  closed after found := by
    have less := comment?_length found
    obtain ⟨front, split⟩ := comment?_suffix found
    have length := congrArg List.length split
    rw [List.length_append] at length
    refine ⟨'/' :: '*' :: front, by rw [← split]; rfl, ?_⟩
    rw [item_opener, found]
    simp only [List.length_cons, Item.length.injEq]
    omega

theorem gap_opener (cs : List Char) :
    gap ('/' :: '*' :: cs) = match comment? cs with
      | some after => (gap after).after (('/' :: '*' :: cs).length - after.length)
      | none => .unclosed 0 := by
  have reach := item_opener cs
  cases found : comment? cs with
  | none =>
      rw [found] at reach
      rw [gap]
      simp only [reach]
  | some after =>
      have less := comment?_length found
      have behind := List.suffix_iff_eq_drop.1 (comment?_suffix found)
      have length : ('/' :: '*' :: cs).length - after.length = cs.length - after.length + 1 + 1 := by
        simp only [List.length_cons]
        omega
      rw [found] at reach
      rw [gap_of_length reach, List.drop_succ_cons, ← behind]
      exact congrArg (fun k => (gap after).after k) length.symm

theorem lineComment_cons {c : Char} {rest : List Char} (inLine : ¬ isLineBreak c)
    (single : c = '-' → rest.head? ≠ some '-') : lineComment (c :: rest) = lineComment rest + 1 := by
  rw [lineComment, if_neg inLine, if_neg]
  simpa using single

theorem lineComment_closed {body : List Char} (after : List Char)
    (inLine : ∀ c ∈ body, ¬ isLineBreak c) (first : ¬ ['-', '-'] <:+: body ++ ['-']) :
    lineComment (body ++ '-' :: '-' :: after) = body.length + 2 := by
  induction body with
  | nil => rfl
  | cons c body ih =>
      obtain ⟨here, later⟩ := List.forall_mem_cons.1 inLine
      have single : c = '-' → (body ++ '-' :: '-' :: after).head? ≠ some '-' := by
        rintro rfl next
        apply first
        cases body with
        | nil => exact List.infix_refl _
        | cons d body =>
            obtain rfl : d = '-' := by simpa using next
            exact ⟨[], body ++ ['-'], rfl⟩
      rw [List.cons_append, lineComment_cons here single,
        ih later fun inside => first (List.infix_cons inside), List.length_cons]

theorem lineComment_open {body after : List Char} (inLine : ∀ c ∈ body, ¬ isLineBreak c)
    (unclosed : ¬ ['-', '-'] <:+: body) (stop : ∀ c ∈ after.head?, isLineBreak c) :
    lineComment (body ++ after) = body.length := by
  induction body with
  | nil =>
      cases after with
      | nil => rfl
      | cons c after => exact if_pos (stop c rfl)
  | cons c body ih =>
      obtain ⟨here, later⟩ := List.forall_mem_cons.1 inLine
      have single : c = '-' → (body ++ after).head? ≠ some '-' := by
        rintro rfl next
        cases body with
        | nil => exact absurd (stop '-' next) (by decide)
        | cons d body =>
            obtain rfl : d = '-' := by simpa using next
            exact unclosed ⟨[], body, rfl⟩
      rw [List.cons_append, lineComment_cons here single,
        ih later fun inside => unclosed (List.infix_cons inside), List.length_cons]

theorem IsItem.item_eq {piece after : List Char} (grammar : IsItem piece after) :
    item (piece ++ after) = .length piece.length := by
  cases grammar with
  | space white => exact item_white white after
  | @closedLine body _ inLine first =>
      have length := lineComment_closed after inLine first
      simp only [List.cons_append, List.append_assoc, List.nil_append, item, length,
        List.length_cons, List.length_append, List.length_nil]
  | @openLine body _ inLine unclosed stop =>
      have length := lineComment_open inLine unclosed stop
      simp only [List.cons_append, item, length, List.length_cons]
  | @block body _ nested =>
      simp only [List.cons_append, List.append_assoc, List.nil_append]
      rw [item_opener, comment?_of_body nested]
      simp only [List.length_append, List.length_cons, List.length_nil, Item.length.injEq]
      omega

theorem IsTrivia.gap_eq {trivia after : List Char} (grammar : IsTrivia trivia after) :
    gap (trivia ++ after) = (gap after).after trivia.length := by
  induction grammar with
  | none => exact (Gap.after_zero _).symm
  | @item piece rest after first others ih =>
      have found := first.item_eq
      obtain ⟨c, piece, rfl⟩ := List.exists_cons_of_length_pos first.length_pos
      rw [List.cons_append, List.length_cons] at found
      rw [List.append_assoc, List.cons_append, gap_of_length found, List.drop_left, ih,
        Gap.after_after, List.length_append, List.length_cons, Nat.add_comm]

end Trivia

namespace Lexer

structure FailsOpen (source : Source) (l : Lexer) (n i : Nat) (e : LexError) : Prop where
  returned : l.returned n = .fatal e
  reason : e.reason = .fault .unterminatedComment
  place : e.span.place = Position.within source.chars i
  stop : e.span.stop = source.text.length
  stays : ∀ m, n ≤ m → l.returned m = .fatal e

theorem Standing.scan_unterminated {l : Lexer} {chars : List Char} (standing : l.Standing chars)
    (going : l.final = none) {e : LexError} (failed : l.scan.1 = .fatal e)
    (reason : e.reason = .fault .unterminatedComment) :
    ∃ gap rest, l.rest = gap ++ rest ∧ Trivia.gap l.rest = .unclosed gap.length ∧
      l.rest.length ≤ chars.length ∧
      e.span = (Position.within chars (chars.length - rest.length)).spanTo
        (Position.within chars chars.length) := by
  cases standing with
  | stopped cut final =>
      rw [going] at final
      cases final
  | going i reads =>
      have steps := scan_steps reads
      rw [failed] at steps
      generalize l.scan.2 = after at steps
      generalize same : Scanned.fatal e = scanned at steps
      cases steps with
      | passed => cases same
      | @ended ending _ cut ends =>
          rw [reads.rest]
          generalize rest : chars.drop i = cs at cut
          cases cut with
          | finished => cases same
          | @unclosed gap tail head trivia =>
              have length := congrArg List.length rest
              rw [List.length_drop, List.length_append, List.length_cons] at length
              have start : chars.length - (head :: tail).length = i + gap.length := by
                rw [List.length_cons]
                omega
              have stop : i + gap.length + (tail.length + 1) = chars.length := by omega
              refine ⟨gap, head :: tail, rfl, trivia, ?_, ?_⟩
              · rw [← rest, List.length_drop]
                exact Nat.sub_le _ _
              · rw [start, ← stop]
                cases same
                rfl
          | @fatal gap tail left head fault trivia read =>
              have fatal := congrArg Lexeme.Front.reading read
              cases same
              cases reason
              rcases Lexeme.read_fatal fatal with ⟨other, _⟩ | ⟨other, _⟩ <;> cases other

theorem Standing.scan_opens {l : Lexer} {chars : List Char} (standing : l.Standing chars)
    (going : l.final = none) {k : Nat} {head : Char} {tail : List Char}
    (front : l.rest.drop k = head :: tail) (unclosed : Trivia.gap l.rest = .unclosed k) :
    ∃ e, l.scan.1 = .fatal e ∧ e.reason = .fault .unterminatedComment := by
  obtain ⟨i, gap, reads, split, rfl⟩ := standing.front_cases going front
  rw [reads.rest, split] at unclosed
  exact ⟨_, (scan_open reads split unclosed).1, rfl⟩

theorem Standing.failsOpen_iff {source : Source} {l : Lexer}
    (encoded : source.text = Utf8.encode source.chars) (standing : l.Standing source.chars) {n : Nat}
    (going : (l.afterScans n).final = none) {trivia cs : List Char}
    (split : (l.afterScans n).rest = trivia ++ '/' :: '*' :: cs)
    (grammar : Trivia.IsTrivia trivia ('/' :: '*' :: cs)) :
    (∃ e, FailsOpen source l n (source.chars.length - ('/' :: '*' :: cs).length) e) ↔
      Trivia.comment? cs = none := by
  have standing' := standing.scans n
  constructor
  · rintro ⟨e, fails⟩
    obtain ⟨front, rest, split', unclosed, inside, span⟩ :=
      standing'.scan_unterminated going fails.returned fails.reason
    -- The place of the error says where the comment opens, so both ways to cut off trivia agree.
    have start : source.chars.length - rest.length
        = source.chars.length - ('/' :: '*' :: cs).length := by
      apply @Position.offset_within_inj source.chars
      · exact Nat.sub_le _ _
      · exact Nat.sub_le _ _
      · have place := congrArg Position.offset fails.place
        rwa [span] at place
    have first := congrArg List.length split
    have second := congrArg List.length split'
    rw [List.length_append] at first second
    have same : rest.length = ('/' :: '*' :: cs).length := by omega
    obtain ⟨rfl, rfl⟩ := List.append_inj' (split'.symm.trans split) same
    obtain ⟨_, opened⟩ := Trivia.isTrivia_of_unclosed (split' ▸ unclosed)
    obtain ⟨_, own, never⟩ := Trivia.item_eq_unclosed opened
    cases own
    exact never
  · intro never
    have gap : Trivia.gap (l.afterScans n).rest = .unclosed trivia.length := by
      rw [split, grammar.gap_eq, Trivia.gap_opener, never]
      rfl
    have front : (l.afterScans n).rest.drop trivia.length = '/' :: '*' :: cs := by
      rw [split, List.drop_left]
    obtain ⟨e, failed, reason⟩ := standing'.scan_opens going front gap
    obtain ⟨trivia', rest, split', unclosed, _, span⟩ :=
      standing'.scan_unterminated going failed reason
    have same : trivia.length = trivia'.length := Trivia.Gap.unclosed.inj (gap.symm.trans unclosed)
    obtain ⟨rfl, rfl⟩ := List.append_inj (split.symm.trans split') same
    refine ⟨e, failed, reason, ?_, ?_, ?_⟩
    · rw [span]
      rfl
    · rw [span, ← Source.offset_within_length encoded]
      rfl
    · intro m later
      obtain ⟨d, rfl⟩ := Nat.exists_eq_add_of_le later
      have last : (l.returned n).isLast := by
        rw [returned, failed]
        rfl
      rw [(standing.stays last d).1, returned, failed]

/-- What the scan behind `n` others does at comments. If it gets to an opener, it goes on behind the
closer, or it fails with this comment when there is none. It fails at no other comment. -/
structure PassesComments (source : Source) (l : Lexer) (n : Nat) : Prop where
  behind : ∀ trivia cs after, (l.afterScans n).rest = trivia ++ '/' :: '*' :: cs →
    Trivia.IsTrivia trivia ('/' :: '*' :: cs) → Trivia.comment? cs = some after →
      Trivia.gap (l.afterScans n).rest
        = (Trivia.gap after).after ((l.afterScans n).rest.length - after.length)
  fails : ∀ trivia cs, (l.afterScans n).rest = trivia ++ '/' :: '*' :: cs →
    Trivia.IsTrivia trivia ('/' :: '*' :: cs) →
      ((∃ e, FailsOpen source l n (source.chars.length - ('/' :: '*' :: cs).length) e) ↔
        Trivia.comment? cs = none)
  only : ∀ e, l.returned n = .fatal e → e.reason = .fault .unterminatedComment →
    ∃ trivia cs, (l.afterScans n).rest = trivia ++ '/' :: '*' :: cs ∧
      Trivia.IsTrivia trivia ('/' :: '*' :: cs) ∧ Trivia.comment? cs = none

theorem Standing.passesComments {source : Source} {l : Lexer}
    (encoded : source.text = Utf8.encode source.chars) (standing : l.Standing source.chars) {n : Nat}
    (going : (l.afterScans n).final = none) : PassesComments source l n where
  behind trivia cs after split grammar found := by
    have less := Trivia.comment?_length found
    rw [split, grammar.gap_eq, Trivia.gap_opener, found]
    simp only [Trivia.Gap.after_after, List.length_append, List.length_cons]
    congr 1
    omega
  fails _ _ split grammar := standing.failsOpen_iff encoded going split grammar
  only e failed reason := by
    obtain ⟨trivia, rest, split, unclosed, _⟩ :=
      (standing.scans n).scan_unterminated going failed reason
    obtain ⟨grammar, opened⟩ := Trivia.isTrivia_of_unclosed (split ▸ unclosed)
    obtain ⟨cs, rfl, never⟩ := Trivia.item_eq_unclosed opened
    exact ⟨trivia, cs, split, grammar, never⟩

end Lexer

/-- Reading nested comments one inside the other finds where a block comment stops. At any place
where one opens, the lexer takes it for trivia up to there, or up to nowhere if reading comes to the
end of the text. In a run, a scan that gets to an opener goes on behind the closer; it fails there
exactly when there is none, with an error from this opener to the end of the text that all later
scans return. No scan fails at a comment otherwise. -/
theorem block_comments_nest (settings : Settings) {input : Bytes} {source : Source}
    (decoded : Source.read input = .ok source) :
    let l := Lexer.start settings source
    (∀ cs, Trivia.Reaches cs) ∧
      ∀ n, (l.afterScans n).final = none → Lexer.PassesComments source l n := by
  intro l
  have encoded := (Source.read_eq_ok_iff.1 decoded).2
  have standing := Lexer.standing_start settings source
  exact ⟨Trivia.reaches, fun _ going => standing.passesComments encoded going⟩

/-- An opener and a closer do not share their star. -/
theorem block_comments_nest_shared_star :
    let cs := ['/', '*', '/', '*', '*', '/', 'x', '*', '/', '/', '*', '/']
    let source : Source := ⟨false, Utf8.encode cs, cs⟩
    let l := Lexer.start ⟨[], .ascii⟩ source
    Source.read (Utf8.encode cs) = .ok source ∧
      Trivia.comment? cs.tail.tail = some ['/', '*', '/'] ∧ Trivia.comment? ['/'] = none ∧
      ∃ e, Lexer.FailsOpen source l 0 9 e := by
  intro cs source l
  have decoded : Source.read (Utf8.encode cs) = .ok source := Source.read_encode (by decide)
  have inner : Trivia.CommentBody ['/', '*', '*', '/', 'x'] :=
    .nested .empty (.scalar (by decide) (by decide) .empty)
  have closed : Trivia.comment? cs.tail.tail = some ['/', '*', '/'] :=
    Trivia.comment?_of_body inner ['/', '*', '/']
  have never : Trivia.comment? ['/'] = none := by
    rw [Trivia.comment?_cons (by simp) (by simp), Trivia.comment?_nil]
  obtain ⟨_, runs⟩ := block_comments_nest ⟨[], .ascii⟩ decoded
  have fails := ((runs 0 rfl).fails (cs.take 9) ['/'] rfl (.item (.block inner) .none)).2 never
  exact ⟨decoded, closed, never, fails⟩

end AsnLexis
