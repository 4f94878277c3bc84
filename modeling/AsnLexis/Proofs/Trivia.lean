import AsnLexis.Lexeme
import Mathlib

/-! The grammar of trivia, and that the gap in front of a token is a text of this grammar. Where a
gap ends is settled by the scalars up to the next whitespace or, in full lines, by the lines
alone. -/

namespace AsnLexis

theorem eq_of_isWhitespace {c : Char} (white : isWhitespace c) :
    c ∈ [' ', '\t', '\u00A0', '\n', '\x0B', '\x0C', '\r'] := by
  simpa [isWhitespace, isSpacing, isLineBreak, or_assoc] using white

def Stops (s : List Char) : Prop := ∀ c ∈ s.head?, isWhitespace c

theorem stops_nil : Stops [] := by
  intro c member
  cases member

theorem stops_cons {c : Char} {rest : List Char} (white : isWhitespace c) : Stops (c :: rest) := by
  intro d member
  cases member
  exact white

namespace Stops

variable {s : List Char}

theorem head_of_class (stop : Stops s) {q : Char → Bool}
    (never : [' ', '\t', '\u00A0', '\n', '\x0B', '\x0C', '\r'].all (!q ·)) :
    ∀ c ∈ s.head?, ¬ q c := by
  intro c member
  have listed := eq_of_isWhitespace (stop c member)
  have refused := List.all_eq_true.1 never c listed
  simpa using refused

theorem head_ne (stop : Stops s) {c : Char} (visible : ¬ isWhitespace c) : s.head? ≠ some c := by
  intro same
  exact visible (stop c same)

end Stops

namespace Trivia

/-- What stands between the opener and the closer of a block comment: comments nested in it, and
scalars at which, read from left to right, neither an opener nor a closer begins. -/
inductive CommentBody : List Char → Prop
  | empty : CommentBody []
  | scalar {c : Char} {body : List Char}
      (noOpener : ¬ ['/', '*'] <+: c :: (body ++ ['*', '/']))
      (noCloser : ¬ ['*', '/'] <+: c :: (body ++ ['*', '/']))
      (rest : CommentBody body) : CommentBody (c :: body)
  | nested {inner body : List Char} (comment : CommentBody inner) (rest : CommentBody body) :
      CommentBody ('/' :: '*' :: (inner ++ '*' :: '/' :: body))

/-- A piece of trivia that `after` follows. A line comment ends with the next two hyphens or else in
front of a line break or the end of the text. -/
inductive IsItem : List Char → List Char → Prop
  | space {c : Char} {after : List Char} (white : isWhitespace c) : IsItem [c] after
  | closedLine {body after : List Char} (inLine : ∀ c ∈ body, ¬ isLineBreak c)
      (first : ¬ ['-', '-'] <:+: body ++ ['-']) : IsItem ('-' :: '-' :: (body ++ ['-', '-'])) after
  | openLine {body after : List Char} (inLine : ∀ c ∈ body, ¬ isLineBreak c)
      (unclosed : ¬ ['-', '-'] <:+: body) (stop : ∀ c ∈ after.head?, isLineBreak c) :
      IsItem ('-' :: '-' :: body) after
  | block {body after : List Char} (nested : CommentBody body) :
      IsItem ('/' :: '*' :: (body ++ ['*', '/'])) after

inductive IsTrivia : List Char → List Char → Prop
  | none {after : List Char} : IsTrivia [] after
  | item {piece rest after : List Char} (first : IsItem piece (rest ++ after))
      (others : IsTrivia rest after) : IsTrivia (piece ++ rest) after

theorem infix_pair_cons {c : Char} {rest : List Char} (apart : ¬ ['-', '-'] <:+: rest)
    (single : c = '-' → rest.head? ≠ some '-') : ¬ ['-', '-'] <:+: c :: rest := by
  intro inside
  rcases List.infix_cons_iff.1 inside with front | later
  · obtain ⟨same, next⟩ := List.cons_prefix_cons.1 front
    cases rest with
    | nil => simp at next
    | cons d rest =>
        obtain ⟨second, _⟩ := List.cons_prefix_cons.1 next
        exact single same.symm (by simp [← second])
  · exact apart later

theorem lineComment_isItem (rest : List Char) :
    ∃ piece after, rest = piece ++ after ∧ piece.length = lineComment rest ∧
      IsItem ('-' :: '-' :: piece) after := by
  suffices ∃ body after, (∀ c ∈ body, ¬ isLineBreak c) ∧
      ((rest = body ++ '-' :: '-' :: after ∧ lineComment rest = body.length + 2
          ∧ ¬ ['-', '-'] <:+: body ++ ['-'])
        ∨ (rest = body ++ after ∧ lineComment rest = body.length ∧ ¬ ['-', '-'] <:+: body
          ∧ ∀ c ∈ after.head?, isLineBreak c)) by
    obtain ⟨body, after, inLine, ⟨split, length, first⟩ | ⟨split, length, unclosed, stop⟩⟩ := this
    · exact ⟨body ++ ['-', '-'], after, by simp [split], by simp [length], .closedLine inLine first⟩
    · exact ⟨body, after, split, length.symm, .openLine inLine unclosed stop⟩
  fun_induction lineComment rest with
  | case1 => exact ⟨[], [], by simp, .inr ⟨rfl, rfl, by simp, by simp⟩⟩
  | case2 c rest ends =>
      exact ⟨[], c :: rest, by simp, .inr ⟨rfl, rfl, by simp, by simpa using ends⟩⟩
  | case3 c rest inside closes =>
      obtain ⟨rfl, next⟩ : c = '-' ∧ rest.head? = some '-' := by simpa using closes
      cases rest with
      | nil => cases next
      | cons d rest =>
          obtain rfl : d = '-' := by simpa using next
          refine ⟨[], rest, by simp, .inl ⟨rfl, rfl, ?_⟩⟩
          decide
  | case4 c rest inside apart ih =>
      have single : c = '-' → rest.head? ≠ some '-' := by simpa using apart
      obtain ⟨body, after, inLine, found⟩ := ih
      have inLine' : ∀ d ∈ c :: body, ¬ isLineBreak d := by
        intro d member
        rcases List.mem_cons.1 member with rfl | member
        · exact inside
        · exact inLine d member
      refine ⟨c :: body, after, inLine', ?_⟩
      rcases found with ⟨rfl, length, first⟩ | ⟨rfl, length, unclosed, stop⟩
      · refine .inl ⟨rfl, by rw [length, List.length_cons], infix_pair_cons first ?_⟩
        intro hyphen
        have := single hyphen
        cases body <;> simp_all
      · refine .inr ⟨rfl, by rw [length, List.length_cons], infix_pair_cons unclosed ?_, stop⟩
        intro hyphen
        have := single hyphen
        cases body <;> simp_all

def closings (bodies : List (List Char)) : List Char := bodies.flatMap (· ++ ['*', '/'])

theorem blockComment_bodies {depth n : Nat} {cs : List Char}
    (closed : blockComment depth cs = some n) :
    ∃ bodies after, cs = closings bodies ++ after ∧ (closings bodies).length = n ∧
      bodies.length = depth ∧ ∀ body ∈ bodies, CommentBody body := by
  -- The bodies still to be closed, innermost first, are what the recursion carries as the depth.
  fun_induction blockComment depth cs generalizing n with
  | case1 cs =>
      cases closed
      exact ⟨[], cs, rfl, rfl, rfl, by simp⟩
  | case2 => cases closed
  | case3 depth rest ih =>
      obtain ⟨m, inner, rfl⟩ := Option.map_eq_some_iff.1 closed
      obtain ⟨bodies, after, rfl, length, count, grammar⟩ := ih inner
      match bodies, count with
      | first :: second :: bodies, count =>
        refine ⟨('/' :: '*' :: (first ++ '*' :: '/' :: second)) :: bodies, after, ?_, ?_, ?_, ?_⟩
        · simp [closings]
        · simp [closings, ← length]
        · simpa using count
        · simp only [List.mem_cons, forall_eq_or_imp] at grammar ⊢
          exact ⟨.nested grammar.1 grammar.2.1, grammar.2.2⟩
  | case4 depth rest ih =>
      obtain ⟨m, inner, rfl⟩ := Option.map_eq_some_iff.1 closed
      obtain ⟨bodies, after, rfl, length, count, grammar⟩ := ih inner
      refine ⟨[] :: bodies, after, ?_, ?_, ?_, ?_⟩
      · simp [closings]
      · simp [closings, ← length]
      · simpa using count
      · simp only [List.mem_cons, forall_eq_or_imp]
        exact ⟨.empty, grammar⟩
  | case5 depth c rest noOpener noCloser ih =>
      obtain ⟨m, inner, rfl⟩ := Option.map_eq_some_iff.1 closed
      obtain ⟨bodies, after, rfl, length, count, grammar⟩ := ih inner
      match bodies, count with
      | first :: bodies, count =>
        refine ⟨(c :: first) :: bodies, after, ?_, ?_, ?_, ?_⟩
        · simp [closings]
        · simp [closings, ← length]
        · simpa using count
        · simp only [List.mem_cons, forall_eq_or_imp] at grammar ⊢
          refine ⟨.scalar ?_ ?_ grammar.1, grammar.2⟩
          · rintro ⟨tail, same⟩
            obtain ⟨slash, star⟩ := List.cons.inj same
            exact noOpener (tail ++ closings bodies ++ after) slash.symm (by
              rw [closings, List.flatMap_cons, ← star]
              rfl)
          · rintro ⟨tail, same⟩
            obtain ⟨star, slash⟩ := List.cons.inj same
            exact noCloser (tail ++ closings bodies ++ after) star.symm (by
              rw [closings, List.flatMap_cons, ← slash]
              rfl)

theorem item_isItem {cs : List Char} {n : Nat} (found : item cs = .length n) :
    ∃ piece after, cs = piece ++ after ∧ piece.length = n ∧ IsItem piece after := by
  unfold item at found
  split at found
  next rest =>
    cases found
    obtain ⟨piece, after, rfl, length, grammar⟩ := lineComment_isItem rest
    exact ⟨'-' :: '-' :: piece, after, rfl, by simp [length], grammar⟩
  next rest =>
    split at found
    next m closed =>
      cases found
      obtain ⟨bodies, after, rfl, length, count, grammar⟩ := blockComment_bodies closed
      match bodies, count with
      | [body], _ =>
        refine ⟨'/' :: '*' :: (body ++ ['*', '/']), after, ?_, ?_, .block (grammar body (by simp))⟩
        · simp [closings]
        · simp [closings, ← length]
    next => cases found
  next c rest _ _ =>
    split at found
    next white =>
      cases found
      exact ⟨[c], rest, rfl, rfl, .space white⟩
    next => cases found
  next => cases found

theorem item_le {cs : List Char} {n : Nat} (found : item cs = .length n) : n ≤ cs.length := by
  obtain ⟨piece, after, rfl, rfl, _⟩ := item_isItem found
  rw [List.length_append]
  exact Nat.le_add_right _ _

theorem IsItem.length_pos {piece after : List Char} (grammar : IsItem piece after) :
    0 < piece.length := by
  cases grammar <;> simp

/-- A gap is trivia up to the first scalar that begins no trivia, or that opens a comment which is
never closed. -/
theorem gap_isTrivia (cs : List Char) :
    ∃ trivia after, cs = trivia ++ after ∧ IsTrivia trivia after ∧
      ((gap cs = .closed trivia.length ∧ item after = .none)
        ∨ (gap cs = .unclosed trivia.length ∧ item after = .unclosed)) := by
  -- Along the gap. A piece is at least one scalar long, which rules out the third case.
  fun_induction gap cs with
  | case1 cs stop => exact ⟨[], cs, rfl, .none, .inl ⟨rfl, stop⟩⟩
  | case2 cs stop => exact ⟨[], cs, rfl, .none, .inr ⟨rfl, stop⟩⟩
  | case3 cs found =>
      obtain ⟨piece, _, _, length, grammar⟩ := item_isItem found
      exact absurd length (Nat.ne_of_gt grammar.length_pos)
  | case4 n found => cases found
  | case5 n c rest found ih =>
      obtain ⟨piece, after, split, length, grammar⟩ := item_isItem found
      have behind : rest.drop n = after := by
        have := congrArg (List.drop (n + 1)) split
        rwa [List.drop_succ_cons, List.drop_left' length] at this
      obtain ⟨trivia, last, split', grammar', ends⟩ := ih
      rw [behind] at split'
      refine ⟨piece ++ trivia, last, ?_, .item (split' ▸ grammar) grammar', ?_⟩
      · rw [split, split', List.append_assoc]
      · rcases ends with ⟨found, stop⟩ | ⟨found, stop⟩
        · exact .inl ⟨by simp [found, Gap.after, length], stop⟩
        · exact .inr ⟨by simp [found, Gap.after, length], stop⟩

theorem isTrivia_of_closed {trivia after : List Char}
    (found : gap (trivia ++ after) = .closed trivia.length) :
    IsTrivia trivia after ∧ item after = .none := by
  obtain ⟨front, back, split, grammar, ⟨length, stop⟩ | ⟨length, _⟩⟩ := gap_isTrivia (trivia ++ after)
  · rw [found, Gap.closed.injEq] at length
    obtain ⟨rfl, rfl⟩ := List.append_inj split length
    exact ⟨grammar, stop⟩
  · rw [found] at length
    cases length

theorem isTrivia_of_unclosed {trivia after : List Char}
    (found : gap (trivia ++ after) = .unclosed trivia.length) :
    IsTrivia trivia after ∧ item after = .unclosed := by
  obtain ⟨front, back, split, grammar, ⟨length, _⟩ | ⟨length, opened⟩⟩ :=
    gap_isTrivia (trivia ++ after)
  · rw [found] at length
    cases length
  · rw [found, Gap.unclosed.injEq] at length
    obtain ⟨rfl, rfl⟩ := List.append_inj split length
    exact ⟨grammar, opened⟩

variable {s : List Char}

theorem item_eq_none_iff {c : Char} {cs : List Char} :
    item (c :: cs) = .none ↔ ¬ isWhitespace c ∧ ¬ (c = '-' ∧ cs.head? = some '-')
      ∧ ¬ (c = '/' ∧ cs.head? = some '*') := by
  constructor
  · intro none
    refine ⟨?_, ?_, ?_⟩
    · intro white
      unfold item at none
      split at none
      next same => cases none
      next rest same =>
        cases same
        exact absurd white (by decide)
      next same =>
        cases same
        rw [if_pos white] at none
        cases none
      next same => cases same
    · rintro ⟨rfl, next⟩
      obtain ⟨rest, rfl⟩ := List.head?_eq_some_iff.1 next
      cases none
    · rintro ⟨rfl, next⟩
      obtain ⟨rest, rfl⟩ := List.head?_eq_some_iff.1 next
      rw [item] at none
      split at none <;> cases none
  · rintro ⟨dark, noLine, noBlock⟩
    unfold item
    split
    next rest same =>
      cases same
      exact absurd ⟨rfl, rfl⟩ noLine
    next rest same =>
      cases same
      exact absurd ⟨rfl, rfl⟩ noBlock
    next same =>
      cases same
      exact if_neg dark
    next => rfl

theorem item_respaced (stop : Stops s) {c : Char} {cs after : List Char}
    (none : item (c :: (cs ++ after)) = .none) : item (c :: (cs ++ s)) = .none := by
  rw [item_eq_none_iff] at none ⊢
  obtain ⟨dark, noLine, noBlock⟩ := none
  cases cs with
  | nil =>
      refine ⟨dark, ?_, ?_⟩
      · rintro ⟨_, next⟩
        exact stop.head_ne (by decide) next
      · rintro ⟨_, next⟩
        exact stop.head_ne (by decide) next
  | cons d cs => exact ⟨dark, noLine, noBlock⟩

theorem item_white {c : Char} (white : isWhitespace c) (cs : List Char) :
    item (c :: cs) = .length 1 := by
  have hyphen : c ≠ '-' := by
    rintro rfl
    exact absurd white (by decide)
  have slash : c ≠ '/' := by
    rintro rfl
    exact absurd white (by decide)
  simp [item, hyphen, slash, white]

theorem gap_of_none {cs : List Char} (none : item cs = .none) : gap cs = .closed 0 := by
  unfold gap
  simp only [none]

theorem gap_of_length {c : Char} {cs : List Char} {n : Nat}
    (found : item (c :: cs) = .length (n + 1)) :
    gap (c :: cs) = (gap (cs.drop n)).after (n + 1) := by
  rw [gap]
  simp only [found]

theorem gap_white {c : Char} {cs : List Char} (white : isWhitespace c) (none : item cs = .none) :
    gap (c :: cs) = .closed 1 := by
  rw [gap_of_length (item_white white cs), List.drop_zero, gap_of_none none]
  rfl

@[simp] theorem Gap.after_zero (g : Gap) : g.after 0 = g := by
  cases g <;> simp [after]

@[simp] theorem Gap.after_after (g : Gap) (m n : Nat) : (g.after m).after n = g.after (n + m) := by
  cases g <;> simp [after, Nat.add_assoc]

theorem Gap.after_eq_closed {g : Gap} {m n : Nat} (found : g.after m = .closed n) :
    ∃ k, g = .closed k ∧ n = m + k := by
  cases g with
  | closed k =>
      cases found
      exact ⟨k, rfl, rfl⟩
  | unclosed k => cases found

theorem lineComment_line {cs : List Char} (more : List Char) (line : cs.getLast? = some '\n') :
    lineComment (cs ++ more) = lineComment cs := by
  induction cs with
  | nil => cases line
  | cons c cs ih =>
      cases cs with
      | nil =>
          obtain rfl : c = '\n' := by simpa using line
          rfl
      | cons d cs =>
          rw [List.getLast?_cons_cons] at line
          rw [List.cons_append, lineComment, ih line, lineComment]
          rfl

theorem blockComment_append {depth n : Nat} {cs : List Char} (more : List Char)
    (closed : blockComment depth cs = some n) : blockComment depth (cs ++ more) = some n := by
  fun_induction blockComment depth cs generalizing n with
  | case1 cs =>
      cases closed
      rw [blockComment]
  | case2 => cases closed
  | case3 depth rest ih =>
      obtain ⟨m, inner, rfl⟩ := Option.map_eq_some_iff.1 closed
      simp [blockComment, ih inner]
  | case4 depth rest ih =>
      obtain ⟨m, inner, rfl⟩ := Option.map_eq_some_iff.1 closed
      simp [blockComment, ih inner]
  | case5 depth c rest noOpener noCloser ih =>
      obtain ⟨m, inner, rfl⟩ := Option.map_eq_some_iff.1 closed
      have same : blockComment (depth + 1) (c :: (rest ++ more))
          = (blockComment (depth + 1) (rest ++ more)).map (· + 1) := by
        cases rest with
        | nil => cases inner
        | cons d rest =>
            rw [blockComment]
            · intro tail slash star
              simp only [List.cons_append, List.cons.injEq] at star
              exact noOpener rest slash (by rw [star.1])
            · intro tail star slash
              simp only [List.cons_append, List.cons.injEq] at slash
              exact noCloser rest star (by rw [slash.1])
      rw [List.cons_append, same, ih inner]
      rfl

theorem item_line {cs : List Char} (more : List Char) (line : cs.getLast? = some '\n')
    (closed : item cs ≠ .unclosed) : item (cs ++ more) = item cs := by
  fun_cases item cs with
  | case1 rest =>
      have behind : rest.getLast? = some '\n' := by
        cases rest with
        | nil => cases line
        | cons d rest => simpa using line
      change Item.length (lineComment (rest ++ more) + 2) = _
      rw [lineComment_line more behind]
  | case2 rest n found =>
      simp only [List.cons_append, item, blockComment_append more found]
  | case3 rest found =>
      apply absurd _ closed
      rw [item, found]
  | case4 c rest _ _ white => rw [List.cons_append, item_white white]
  | case5 c rest noLine noBlock dark =>
      cases rest with
      | nil =>
          obtain rfl : c = '\n' := by simpa using line
          exact absurd (by decide) dark
      | cons d rest =>
          have begins : item (c :: d :: rest) = .none := by simpa [item, noLine, noBlock] using dark
          rw [item_eq_none_iff] at begins
          exact item_eq_none_iff.2 begins
  | case6 => cases line

theorem gap_line {cs : List Char} {n : Nat} (more : List Char)
    (line : cs ≠ [] → cs.getLast? = some '\n') (found : gap cs = .closed n) :
    gap (cs ++ more) = if n = cs.length then (gap more).after n else .closed n := by
  fun_induction gap cs generalizing n with
  | case1 cs none =>
      cases found
      cases cs with
      | nil => simp
      | cons c cs =>
          have same := item_line more (line (by simp)) (by rw [none]; simp)
          rw [if_neg (by simp), gap_of_none (same.trans none)]
  | case2 => cases found
  | case3 cs empty =>
      obtain ⟨piece, _, _, length, grammar⟩ := item_isItem empty
      exact absurd length (Nat.ne_of_gt grammar.length_pos)
  | case4 m empty => cases empty
  | case5 m c rest first ih =>
      have same : item (c :: (rest ++ more)) = item (c :: rest) :=
        item_line more (line (by simp)) (by rw [first]; simp)
      have short : m ≤ rest.length := Nat.le_of_succ_le_succ (item_le first)
      have later : rest.drop m ≠ [] → (rest.drop m).getLast? = some '\n' := by
        intro left
        have inside : ¬ (c :: rest).length ≤ m + 1 := by
          simpa using left
        have whole := line (by simp)
        rwa [← List.drop_succ_cons, List.getLast?_drop, if_neg inside]
      obtain ⟨k, inner, rfl⟩ := Gap.after_eq_closed found
      rw [List.cons_append, gap_of_length (same.trans first), List.drop_append_of_le_length short,
        ih later inner]
      have ends : k = (rest.drop m).length ↔ m + 1 + k = (c :: rest).length := by
        rw [List.length_drop, List.length_cons]
        omega
      by_cases all : k = (rest.drop m).length
      · rw [if_pos all, if_pos (ends.1 all), Gap.after_after]
      · rw [if_neg all, if_neg (fun full => all (ends.2 full))]
        rfl

end Trivia

end AsnLexis
