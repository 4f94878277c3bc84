import AsnLexis.Command.Listing
import AsnLexis.Pipeline.Job
import AsnLexis.Proofs.Progress
import Mathlib

/-! Literal tokens and the table of literals. Every literal token of a run has a cell of its own that
says what the token says, so resolving the literals of a run never breaks the rules of the table. -/

namespace AsnLexis

namespace Literal

theorem literal_of_interpret_error {handle : Nat} {raw : Bytes} {span : Span} {target : Target}
    {e : Error} (failed : interpret handle raw span target = .error e) :
    ∃ reason cause, e = .literal ⟨reason, handle, span⟩ cause := by
  unfold interpret at failed
  split at failed
  next => cases failed
  next =>
    split at failed
    next => cases failed
    next =>
      cases failed
      exact ⟨_, _, rfl⟩
  next =>
    split at failed
    next => cases failed
    next =>
      cases failed
      exact ⟨_, _, rfl⟩

end Literal

namespace LiteralTable

open Literal

def Holds (table : LiteralTable) (t : Token) : Prop :=
  table.entry? t.handle = some ⟨t.text, t.span, none⟩

theorem outcome_of_holds {table : LiteralTable} {t : Token} (holds : table.Holds t)
    (target : Target) :
    (table.resolveAs t.handle t.text target).1 = interpret t.handle t.text t.span target := by
  rw [resolveAs, holds]
  simp

theorem entry?_resolveAs (table : LiteralTable) {handle other : Nat} (apart : other ≠ handle)
    (raw : Bytes) (target : Target) :
    entry? (table.resolveAs handle raw target).2 other = table.entry? other := by
  unfold resolveAs
  split
  next => rfl
  next entry found =>
    split_ifs
    · rfl
    · rfl
    · have issued : handle ≠ 0 := by
        rintro rfl
        cases found
      unfold entry?
      split_ifs with zero
      · rfl
      · rw [Array.getElem?_modify, if_neg (by omega)]

theorem Holds.resolveAs {table : LiteralTable} {t : Token} (holds : table.Holds t) {handle : Nat}
    (apart : t.handle ≠ handle) (raw : Bytes) (target : Target) :
    (table.resolveAs handle raw target).2.Holds t := by
  rw [Holds, entry?_resolveAs table apart]
  exact holds

def resolveEach (table : LiteralTable) : List (Token × Target) → List (Except Error Value)
  | [] => []
  | (t, target) :: rest =>
    let (outcome, after) := table.resolveAs t.handle t.text target
    outcome :: after.resolveEach rest

/-- Tokens with cells of their own in a table that has not been used. -/
structure Unused (table : LiteralTable) (tokens : List Token) : Prop where
  holds : ∀ t ∈ tokens, table.Holds t
  apart : (tokens.map Token.handle).Nodup

namespace Unused

variable {table : LiteralTable} {t : Token} {tokens : List Token}

theorem perm {others : List Token} (unused : table.Unused tokens) (order : others.Perm tokens) :
    table.Unused others where
  holds u member := unused.holds u (order.mem_iff.1 member)
  apart := (order.map Token.handle).nodup_iff.2 unused.apart

theorem step (unused : table.Unused (t :: tokens)) (target : Target) :
    (table.resolveAs t.handle t.text target).1 = interpret t.handle t.text t.span target ∧
      (table.resolveAs t.handle t.text target).2.Unused tokens := by
  have apart := List.nodup_cons.1 unused.apart
  refine ⟨outcome_of_holds (unused.holds t List.mem_cons_self) target, ⟨?_, apart.2⟩⟩
  intro u member
  apply (unused.holds u (List.mem_cons_of_mem t member)).resolveAs
  intro same
  apply apart.1
  rw [← same]
  exact List.mem_map_of_mem member

theorem resolveEach {asks : List (Token × Target)} (unused : table.Unused (asks.map Prod.fst)) :
    table.resolveEach asks
      = asks.map (fun ask => interpret ask.1.handle ask.1.text ask.1.span ask.2) := by
  induction asks generalizing table with
  | nil => rfl
  | cons ask asks ih =>
      obtain ⟨outcome, later⟩ := unused.step ask.2
      rw [LiteralTable.resolveEach, List.map_cons, ← ih later, ← outcome]

end Unused

end LiteralTable

def literalsOf (tokens : List Token) : List Token := tokens.filter Token.isLiteral

/-- The table has one cell for each literal among the tokens, in their order, with its text and
span; the handles of the literals count the cells from 1, and other tokens have none. The text of a
literal is its lexeme. -/
structure Registered (source : Source) (tokens : List Token) (table : LiteralTable) : Prop where
  cells : table.entries.toList = (literalsOf tokens).map (fun t => ⟨t.text, t.span, none⟩)
  handles : (literalsOf tokens).map Token.handle = List.range' 1 table.size
  lexemes : ∀ t ∈ literalsOf tokens, t.text = source.sliceSpan t.span
  others : ∀ t ∈ tokens, ¬ t.isLiteral → t.handle = 0

namespace Registered

variable {source : Source} {tokens : List Token} {table after : LiteralTable} {t : Token}

theorem other (registered : Registered source tokens table) (plain : ¬ t.isLiteral)
    (zero : t.handle = 0) (same : after.entries.toList = table.entries.toList) :
    Registered source (tokens ++ [t]) after := by
  have literals : literalsOf (tokens ++ [t]) = literalsOf tokens := by
    simp [literalsOf, plain]
  have size : after.size = table.size := by simpa [LiteralTable.size] using congrArg List.length same
  constructor
  · rw [same, literals, registered.cells]
  · rw [literals, size, registered.handles]
  · rw [literals]
    exact registered.lexemes
  · intro u member other
    rcases List.mem_append.1 member with before | last
    · exact registered.others u before other
    · rw [List.mem_singleton.1 last, zero]

theorem literal (registered : Registered source tokens table) (literal : t.isLiteral)
    (handle : t.handle = table.size + 1) (lexeme : t.text = source.sliceSpan t.span)
    (added : after.entries.toList = table.entries.toList ++ [⟨t.text, t.span, none⟩]) :
    Registered source (tokens ++ [t]) after := by
  have literals : literalsOf (tokens ++ [t]) = literalsOf tokens ++ [t] := by
    simp [literalsOf, literal]
  have size : after.size = table.size + 1 := by
    simpa [LiteralTable.size] using congrArg List.length added
  constructor
  · rw [added, literals, List.map_append, registered.cells]
    rfl
  · rw [literals, size, List.map_append, registered.handles, List.range'_concat, List.map_singleton,
      handle, Nat.one_mul, Nat.add_comm 1]
  · rw [literals]
    intro u member
    rcases List.mem_append.1 member with before | last
    · exact registered.lexemes u before
    · rw [List.mem_singleton.1 last, lexeme]
  · intro u member other
    rcases List.mem_append.1 member with before | last
    · exact registered.others u before other
    · rw [List.mem_singleton.1 last] at other
      exact absurd literal other

theorem unused (registered : Registered source tokens table) :
    table.Unused (literalsOf tokens) where
  holds t member := by
    obtain ⟨k, inside, rfl⟩ := List.getElem_of_mem member
    have length : (literalsOf tokens).length = table.size := by
      simpa using congrArg List.length registered.handles
    have handle : (literalsOf tokens)[k].handle = 1 + k := by
      have numbered := congrArg (·[k]?) registered.handles
      have bound : k < table.size := length ▸ inside
      simpa [inside, bound, List.getElem?_range'] using numbered
    have cell : table.entries.toList[k]?
        = some ⟨(literalsOf tokens)[k].text, (literalsOf tokens)[k].span, none⟩ := by
      rw [registered.cells, List.getElem?_map, List.getElem?_eq_getElem inside]
      rfl
    rw [LiteralTable.Holds, LiteralTable.entry?, handle, if_neg (by omega), Nat.add_sub_cancel_left,
      ← Array.getElem?_toList, cell]
  apart := by
    rw [registered.handles]
    exact List.nodup_range'

end Registered

theorem Placed.sliceSpan_of_drop {source : Source} (encoded : source.text = Utf8.encode source.chars)
    {x : Placed} {left : List Char}
    (lexeme : source.chars.drop x.start = x.segment.lexeme ++ left) :
    source.sliceSpan (x.span source.chars) = x.text := by
  obtain ⟨before, split, length⟩ := Lexer.split_of_drop lexeme
  exact Placed.sliceSpan_span encoded split length

theorem Placed.drop_stop {source : Source} (encoded : source.text = Utf8.encode source.chars)
    {x : Placed} {left : List Char}
    (lexeme : source.chars.drop x.start = x.segment.lexeme ++ left) :
    source.text.drop (x.span source.chars).stop = Utf8.encode left := by
  obtain ⟨before, split, length⟩ := Lexer.split_of_drop lexeme
  rw [(Placed.span_eq split length).2, encoded, split, ← List.append_assoc,
    Utf8.encode_append (before ++ x.segment.lexeme) left, List.drop_left]

namespace Lexer

def tokensBefore (l : Lexer) (n : Nat) : List Token :=
  (List.range n).filterMap (fun i => (l.returned i).token?)

theorem tokensBefore_succ (l : Lexer) (n : Nat) :
    l.tokensBefore (n + 1) = l.tokensBefore n ++ (l.returned n).token?.toList := by
  rw [tokensBefore, List.range_succ, List.filterMap_append]
  cases found : (l.returned n).token? <;> simp [tokensBefore, found]

theorem registered_ending {source : Source} {tokens : List Token} {table : LiteralTable}
    (registered : Registered source tokens table) (chars : List Char) (i : Nat) (ending : Ending) :
    Registered source (tokens ++ (ending.scanned chars i).token?.toList) table := by
  cases ending with
  | finished gap => exact registered.other (by simp [Token.isLiteral]) rfl rfl
  | fatal => simpa [Ending.scanned, Scanned.token?] using registered

theorem Standing.registers {source : Source} (encoded : source.text = Utf8.encode source.chars)
    {l : Lexer} (standing : l.Standing source.chars) {tokens : List Token}
    (registered : Registered source tokens l.literals) :
    Registered source (tokens ++ l.scan.1.token?.toList) l.scan.2.literals := by
  cases standing with
  | stopped cut final =>
      rw [scan_of_final final]
      exact registered_ending registered _ _ _
  | going i reads =>
      have steps := scan_steps reads
      generalize l.scan.1 = scanned, l.scan.2 = after at steps
      -- The table grows by the cell of a literal and by nothing else.
      cases steps with
      | ended cut ends =>
          rw [ends.literals]
          exact registered_ending registered _ _ _
      | @passed x left after ahead numbered lexeme read mild passes =>
          have added := passes.literals
          rcases x.literal_or_other source.chars read with
            ⟨literal, handle, text, cell⟩ | ⟨other, zero, none⟩
          · rw [cell] at added
            refine registered.literal literal (by rw [handle, numbered]) ?_ added
            rw [text, Placed.span_token, Placed.sliceSpan_of_drop encoded lexeme]
          · rw [none, Option.toList_none, List.append_nil] at added
            exact registered.other other zero added

theorem registered_scans (settings : Settings) {source : Source}
    (encoded : source.text = Utf8.encode source.chars) (n : Nat) :
    Registered source ((start settings source).tokensBefore n)
      ((start settings source).afterScans n).literals := by
  induction n with
  | zero =>
      obtain ⟨_, _, literals, _⟩ := start_fields settings source
      refine ⟨?_, ?_, by simp [literalsOf, tokensBefore], by simp [tokensBefore]⟩
      · rw [afterScans, literals]
        rfl
      · rw [afterScans, LiteralTable.size, literals]
        rfl
  | succ n ih =>
      rw [tokensBefore_succ]
      exact ((standing_start settings source).scans n).registers encoded ih

theorem literals_of_fatal {l : Lexer} {chars : List Char} (standing : l.Standing chars)
    {e : LexError} (failed : l.scan.1 = .fatal e) : l.scan.2.literals = l.literals := by
  cases standing with
  | stopped cut final => rw [scan_of_final final]
  | going i reads =>
      have steps := scan_steps reads
      generalize l.scan.1 = scanned, l.scan.2 = after at steps failed ⊢
      cases steps with
      | passed => cases failed
      | ended cut ends => exact ends.literals

theorem afterScans_scan (l : Lexer) (n : Nat) : l.scan.2.afterScans n = l.afterScans (n + 1) := by
  induction n with
  | zero => rfl
  | succ n ih => rw [afterScans, ih, ← afterScans]

theorem exists_scans (l : Lexer) :
    ∃ n, l.scanAll = ((List.range n).map l.returned, l.afterScans n) := by
  induction length : l.rest.length using Nat.strong_induction_on generalizing l with
  | _ size ih =>
    by_cases going : l.scan.2.final = none
    · obtain ⟨n, scans⟩ := ih _ (length ▸ scan_shortens l going) l.scan.2 rfl
      refine ⟨n + 1, ?_⟩
      rw [scanAll_going going, scans, List.range_succ_eq_map, List.map_cons, List.map_map,
        afterScans_scan]
      have later : l.scan.2.returned = l.returned ∘ Nat.succ := by
        funext i
        rw [returned, afterScans_scan]
        rfl
      rw [later]
      rfl
    · exact ⟨1, scanAll_stopped going⟩

end Lexer

theorem registered_tokenize (name : Bytes) (settings : Settings) {input : Bytes} {source : Source}
    (decoded : Source.read input = .ok source) :
    Registered source (tokenize name settings input).tokens
      (tokenize name settings input).literals := by
  have encoded := (Source.read_eq_ok_iff.1 decoded).2
  obtain ⟨n, scans⟩ := Lexer.exists_scans (Lexer.start settings source)
  have registered := Lexer.registered_scans settings encoded n
  rw [tokenize, decoded]
  simp only [scans, Tokenized.ofScan, List.filterMap_map]
  exact registered

def Token.literalRow (t : Token) : Store.NewLiteral :=
  ⟨t.handle, t.text, Literal.characterString t.text, Tokenized.iriText t.text, t.span⟩

theorem LiteralTable.Unused.resolveAll {table : LiteralTable} {tokens : List Token}
    (unused : table.Unused (literalsOf tokens)) :
    Tokenized.resolveAll table tokens = .ok ((literalsOf tokens).map Token.literalRow) := by
  induction tokens generalizing table with
  | nil => rfl
  | cons t tokens ih =>
      rw [Tokenized.resolveAll]
      split_ifs with literal
      · have first : literalsOf (t :: tokens) = t :: literalsOf tokens := by
          simp [literalsOf, literal]
        rw [first] at unused ⊢
        obtain ⟨outcome, later⟩ := unused.step .characterString
        have resolved : table.resolveToken (some t) false
            = table.resolveAs t.handle t.text .characterString := by
          simp [resolveToken, literal, resolve, Target.ofOidIri]
        rw [resolved]
        generalize table.resolveAs t.handle t.text .characterString = result at outcome later ⊢
        obtain ⟨value, after⟩ := result
        subst outcome
        simp only [Literal.interpret, ih later]
        rfl
      · have rest : literalsOf (t :: tokens) = literalsOf tokens := by simp [literalsOf, literal]
        rw [rest] at unused ⊢
        exact ih unused

namespace Command

inductive Shown (path text : Bytes) (target : Target) (t : Token) : Report × Nat → Prop
  | value (v : Literal.Value)
      (resolved : Literal.interpret t.handle t.text t.span target = .ok v) :
      Shown path text target t (.printed (literalLine path v), 0)
  | refused (e : Error) (d : Diagnostic)
      (failed : Literal.interpret t.handle t.text t.span target = .error e)
      (diagnosed : Diagnostic.ofLiteral? e = some d) (place : d.span = t.span) :
      Shown path text target t ({ notices := [.lines (d.print path text)] }, 1)

theorem resolveTokens_eq (path text : Bytes) (target : Target) {table : LiteralTable}
    {tokens : List Token} (unused : table.Unused (literalsOf tokens)) (refused : Nat) :
    ∃ parts, List.Forall₂ (Shown path text target) (literalsOf tokens) parts ∧
      resolveTokens path text target table refused tokens
        = (Report.all (parts.map Prod.fst), refused + (parts.map Prod.snd).sum) := by
  induction tokens generalizing table refused with
  | nil => exact ⟨[], .nil, rfl⟩
  | cons t tokens ih =>
      rw [resolveTokens]
      by_cases literal : t.isLiteral
      · have first : literalsOf (t :: tokens) = t :: literalsOf tokens := by
          simp [literalsOf, literal]
        rw [first] at unused ⊢
        rw [if_neg (by simp [literal])]
        obtain ⟨outcome, later⟩ := unused.step target
        generalize table.resolveAs t.handle t.text target = result at outcome later ⊢
        obtain ⟨value, after⟩ := result
        cases value with
        | ok v =>
            obtain ⟨parts, shown, rest⟩ := ih later refused
            refine ⟨_ :: parts, .cons (.value v outcome.symm) shown, ?_⟩
            simp only [rest, List.map_cons, List.sum_cons, Nat.zero_add]
            rfl
        | error e =>
            obtain ⟨reason, cause, rfl⟩ := Literal.literal_of_interpret_error outcome.symm
            obtain ⟨parts, shown, rest⟩ := ih later (refused + 1)
            refine ⟨_ :: parts, .cons (.refused _ _ outcome.symm rfl rfl) shown, ?_⟩
            simp only [Diagnostic.ofLiteral?, rest, List.map_cons, List.sum_cons, Nat.add_assoc]
            rfl
      · have rest : literalsOf (t :: tokens) = literalsOf tokens := by simp [literalsOf, literal]
        rw [rest] at unused ⊢
        rw [if_pos (by simp [literal])]
        exact ih unused refused

end Command

structure Tokenized.LiteralsUsable (r : Tokenized) : Prop where
  stored : ∀ unit now, ∃ scan, r.record unit now = .ok scan
  shown : ∀ path text target, ∃ parts,
    List.Forall₂ (Command.Shown path text target) (literalsOf r.tokens) parts ∧
      Command.resolveTokens path text target r.literals 0 r.tokens
        = (Report.all (parts.map Prod.fst), (parts.map Prod.snd).sum)

/-- After any number of scans of a well-formed source the table has one cell for each literal token
returned so far, with its text, which is its lexeme, and its span, and the literal tokens are
numbered from 1; a scan that fails adds no cell. So resolving these tokens once each, in any order
and as any targets, reads every one of them and is never refused as a misuse of the table; the
literals of the tokenized source are all stored, and each is shown with its value or with a
diagnostic. -/
theorem literals_registered (name : Bytes) (settings : Settings) {input : Bytes} {source : Source}
    (decoded : Source.read input = .ok source) :
    let l := Lexer.start settings source
    (∀ n, Registered source (l.tokensBefore n) (l.afterScans n).literals) ∧
      (∀ n e, l.returned n = .fatal e →
        (l.afterScans (n + 1)).literals = (l.afterScans n).literals) ∧
      (∀ n (asks : List (Token × Target)),
        (asks.map Prod.fst).Perm (literalsOf (l.tokensBefore n)) →
        (l.afterScans n).literals.resolveEach asks
            = asks.map (fun ask => Literal.interpret ask.1.handle ask.1.text ask.1.span ask.2) ∧
          ∀ outcome ∈ (l.afterScans n).literals.resolveEach asks,
            ∀ e, outcome ≠ .error (.internal e)) ∧
      (tokenize name settings input).LiteralsUsable := by
  intro l
  have encoded := (Source.read_eq_ok_iff.1 decoded).2
  have registered := Lexer.registered_scans settings encoded
  refine ⟨registered, ?_, ?_, ?_⟩
  · intro n e failed
    exact Lexer.literals_of_fatal ((Lexer.standing_start settings source).scans n) failed
  · intro n asks order
    have outcomes := ((registered n).unused.perm order).resolveEach
    refine ⟨outcomes, ?_⟩
    intro outcome member e internal
    rw [outcomes] at member
    obtain ⟨ask, _, read⟩ := List.mem_map.1 member
    obtain ⟨reason, cause, same⟩ := Literal.literal_of_interpret_error (read.trans internal)
    cases same
  · have unused := (registered_tokenize name settings decoded).unused
    constructor
    · intro unit now
      rw [Tokenized.record, unused.resolveAll]
      exact ⟨_, rfl⟩
    · intro path text target
      have shown := Command.resolveTokens_eq path text target unused 0
      simpa only [Nat.zero_add] using shown

theorem literals_registered_before_open_string :
    let cs := ['"', '/', '1', '"', ' ', '"', 'b', '"', '"', 'c', '"', '\n', '"', 'a', '"', '"']
    let source : Source := ⟨false, Utf8.encode cs, cs⟩
    let l := Lexer.start ⟨[], .ascii⟩ source
    let literals := literalsOf (l.tokensBefore 3)
    Source.read (Utf8.encode cs) = .ok source ∧ literals.map Token.handle = [1, 2] ∧
      Registered source (l.tokensBefore 3) (l.afterScans 3).literals ∧
      (∀ outcome ∈ (l.afterScans 3).literals.resolveEach (literals.reverse.map (·, .oidIri)),
        ∀ e, outcome ≠ .error (.internal e)) ∧
      (tokenize [] ⟨[], .ascii⟩ (Utf8.encode cs)).LiteralsUsable := by
  intro cs source l literals
  have decoded : Source.read (Utf8.encode cs) = .ok source := Source.read_encode (by decide)
  obtain ⟨registered, _, resolved, usable⟩ := literals_registered [] ⟨[], .ascii⟩ decoded
  have order : ((literals.reverse.map (·, Target.oidIri)).map Prod.fst).Perm literals := by
    rw [List.map_map]
    exact (List.map_id _).symm ▸ List.reverse_perm literals
  exact ⟨decoded, by decide +kernel, registered 3, (resolved 3 _ order).2, usable⟩

end AsnLexis
