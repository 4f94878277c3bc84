import AsnLexis.Proofs.Literals
import Mathlib

/-! Requests to a lexer and to its table of literals, in any order. A literal is recorded when it is
found; the first request that resolves it fixes its outcome, and no later one takes it back. -/

namespace AsnLexis

open Literal

namespace LiteralTable

def recorded? (table : LiteralTable) (handle : Nat) : Option (Bytes × Span) :=
  (table.entry? handle).map fun entry => (entry.raw, entry.span)

/-- The table has a cell for each of the literals, in their order, with its text and span. The
outcome in it is that of the target that `first` has for the literal, if it has one. -/
structure Tracks (table : LiteralTable) (literals : List Token) (first : Nat → Option Target) :
    Prop where
  size : table.size = literals.length
  handles : literals.map Token.handle = List.range' 1 literals.length
  cells : ∀ k t, literals[k]? = some t → table.entry? (k + 1)
    = some ⟨t.text, t.span, (first (k + 1)).map (interpret (k + 1) t.text t.span)⟩
  fresh : ∀ handle, literals.length < handle → first handle = none

theorem entry?_eq_none_iff {table : LiteralTable} {handle : Nat} :
    table.entry? handle = none ↔ handle = 0 ∨ table.size < handle := by
  rw [ entry?, size]
  split_ifs with zero
  · simp [zero]
  · rw [Array.getElem?_eq_none_iff]
    omega

theorem recorded?_eq_none_iff {table : LiteralTable} {handle : Nat} :
    table.recorded? handle = none ↔ handle = 0 ∨ table.size < handle := by
  rw [recorded?, Option.map_eq_none_iff, entry?_eq_none_iff]

theorem entry?_add (table : LiteralTable) (raw : Bytes) (span : Span) (handle : Nat) :
    entry? (table.add raw span) handle
      = if handle = table.size + 1 then some ⟨raw, span, none⟩ else table.entry? handle := by
  unfold entry? add
  split_ifs with zero new new
  · omega
  · rfl
  · rw [Array.getElem?_push, if_pos (by rw [new]; rfl)]
  · rw [Array.getElem?_push, if_neg (by rw [size] at new; omega)]

theorem resolveAs_unknown {table : LiteralTable} {handle : Nat}
    (unknown : table.entry? handle = none) (raw : Bytes) (target : Target) :
    table.resolveAs handle raw target = (.error (misuse .unknownHandle handle), table) := by
  rw [resolveAs, unknown]

theorem resolveAs_mismatch {table : LiteralTable} {handle : Nat} {entry : Entry}
    (found : table.entry? handle = some entry) {raw : Bytes} (other : raw ≠ entry.raw)
    (target : Target) :
    table.resolveAs handle raw target = (.error (misuse .handleMismatch handle), table) := by
  rw [resolveAs, found]
  simp only [other, ne_eq, not_false_eq_true, if_true]

theorem resolveAs_resolved {table : LiteralTable} {handle : Nat} {entry : Entry}
    (found : table.entry? handle = some entry) {outcome : Except Error Value}
    (resolved : entry.outcome = some outcome) (target : Target) :
    table.resolveAs handle entry.raw target = (.error (misuse .resolvedTwice handle), table) := by
  rw [resolveAs, found]
  simp [resolved]

theorem resolveAs_pending {table : LiteralTable} {handle : Nat} {entry : Entry}
    (found : table.entry? handle = some entry) (unresolved : entry.outcome = none)
    (target : Target) :
    let outcome := interpret handle entry.raw entry.span target
    table.resolveAs handle entry.raw target
      = (outcome, ⟨table.entries.modify (handle - 1) fun e => { e with outcome := some outcome }⟩) := by
  intro outcome
  rw [resolveAs, found]
  simp [unresolved, outcome]

theorem entry?_resolveAs_self {table : LiteralTable} {handle : Nat} {entry : Entry}
    (found : table.entry? handle = some entry) (unresolved : entry.outcome = none)
    (target : Target) :
    entry? (table.resolveAs handle entry.raw target).2 handle
      = some { entry with outcome := some (interpret handle entry.raw entry.span target) } := by
  have issued : handle ≠ 0 := by
    rintro rfl
    cases found
  rw [resolveAs_pending found unresolved]
  rw [ entry?, if_neg issued] at found ⊢
  rw [Array.getElem?_modify, if_pos rfl, found]
  rfl

theorem size_resolveAs (table : LiteralTable) (handle : Nat) (raw : Bytes) (target : Target) :
    size (table.resolveAs handle raw target).2 = table.size := by
  unfold resolveAs
  split
  next => rfl
  next =>
    split_ifs
    · rfl
    · rfl
    · exact Array.size_modify

namespace Tracks

variable {table : LiteralTable} {literals : List Token} {first : Nat → Option Target}

theorem entry?_eq_some (tracks : table.Tracks literals first) {handle : Nat} {entry : Entry}
    (found : table.entry? handle = some entry) :
    entry.outcome = (first handle).map (interpret handle entry.raw entry.span) := by
  have inside : ¬ (handle = 0 ∨ table.size < handle) := by
    rw [← entry?_eq_none_iff, found]
    simp
  rw [tracks.size] at inside
  obtain ⟨k, rfl⟩ : ∃ k, handle = k + 1 := ⟨handle - 1, by omega⟩
  have cell := tracks.cells k _ (List.getElem?_eq_getElem (by omega))
  rw [found, Option.some.injEq] at cell
  rw [cell]

theorem recorded?_eq (tracks : table.Tracks literals first) (handle : Nat) :
    table.recorded? handle
      = if handle = 0 then none else literals[handle - 1]?.map (fun t => (t.text, t.span)) := by
  split_ifs with zero
  · exact recorded?_eq_none_iff.2 (.inl zero)
  · by_cases inside : handle - 1 < literals.length
    · have cell := tracks.cells (handle - 1) _ (List.getElem?_eq_getElem inside)
      rw [Nat.sub_add_cancel (by omega)] at cell
      rw [recorded?, cell, List.getElem?_eq_getElem inside]
      rfl
    · rw [List.getElem?_eq_none (Nat.not_lt.1 inside)]
      exact recorded?_eq_none_iff.2 (.inr (by rw [tracks.size]; omega))

theorem value_eq (tracks : table.Tracks literals first) (handle : Nat) :
    table.value handle = match table.recorded? handle with
      | none => .error (misuse .unknownHandle handle)
      | some (raw, span) =>
        match first handle with
        | none => .error (misuse .unresolved handle)
        | some target => interpret handle raw span target := by
  rw [value, recorded?]
  cases found : table.entry? handle with
  | none => rfl
  | some entry =>
      simp only [Option.map_some, tracks.entry?_eq_some found]
      cases first handle <;> rfl

theorem filter_zipIdx (entries : List Entry) (start : Nat) (waits : Nat → Bool)
    (agree : ∀ k entry, entries[k]? = some entry →
      entry.outcome.isNone = waits (start + k + 1)) :
    ((entries.zipIdx start).filter (·.1.outcome.isNone)).map (·.2 + 1)
      = (List.range' (start + 1) entries.length).filter waits := by
  induction entries generalizing start with
  | nil => rfl
  | cons entry entries ih =>
      have here : entry.outcome.isNone = waits (start + 1) := agree 0 entry rfl
      have later := ih (start + 1) fun k other member => by
        rw [agree (k + 1) other member]
        congr 1
        omega
      rw [List.zipIdx_cons, List.length_cons, List.range'_succ, List.filter_cons, List.filter_cons]
      simp only [here]
      split
      · rw [List.map_cons, later]
      · exact later

theorem pending_eq (tracks : table.Tracks literals first) :
    table.pending
      = (List.range' 1 literals.length).filter (fun handle => (first handle).isNone) := by
  rw [pending, filter_zipIdx _ 0 fun handle => (first handle).isNone, ← tracks.size]
  · rfl
  · intro k entry member
    have found : table.entry? (k + 1) = some entry := by
      rw [ entry?, if_neg (Nat.succ_ne_zero k), Nat.add_sub_cancel, ← Array.getElem?_toList]
      exact member
    rw [tracks.entry?_eq_some found, Nat.zero_add]
    cases first (k + 1) <;> rfl

theorem add (tracks : table.Tracks literals first) {t : Token} (handle : t.handle = table.size + 1) :
    (table.add t.text t.span).Tracks (literals ++ [t]) first where
  size := by
    rw [List.length_append, ← tracks.size]
    exact Array.size_push _
  handles := by
    rw [List.map_append, tracks.handles, List.length_append, List.map_singleton,
      List.length_singleton, List.range'_concat, handle, tracks.size, Nat.one_mul, Nat.add_comm 1]
  cells k u member := by
    rw [entry?_add]
    by_cases last : k = literals.length
    · subst last
      rw [List.getElem?_concat_length, Option.some.injEq] at member
      rw [if_pos (by rw [tracks.size]), tracks.fresh _ (Nat.lt_succ_self _), member]
      rfl
    · have before : k < literals.length := by
        have inside := (List.getElem?_eq_some_iff.1 member).1
        rw [List.length_append, List.length_singleton] at inside
        omega
      rw [List.getElem?_append_left before] at member
      rw [if_neg (by rw [tracks.size]; omega)]
      exact tracks.cells k u member
  fresh handle beyond := by
    rw [List.length_append] at beyond
    exact tracks.fresh handle (by omega)

/-- The targets that were asked for first, once a request has been made for a literal. -/
def asked (table : LiteralTable) (first : Nat → Option Target) (handle : Nat) (raw : Bytes)
    (target : Target) (k : Nat) : Option Target :=
  (first k).or ((table.recorded? k).bind fun own =>
    if handle = k ∧ raw = own.1 then some target else none)

theorem asked_other {handle k : Nat} (apart : k ≠ handle) (raw : Bytes) (target : Target) :
    asked table first handle raw target k = first k := by
  rw [asked, Option.bind_eq_none_iff.2, Option.or_none]
  intro own _
  rw [if_neg fun both => apart both.1.symm]

theorem asked_of_refused {handle : Nat} {raw : Bytes} {target : Target}
    (refused : first handle = none → ∀ own, table.recorded? handle = some own → raw ≠ own.1) :
    asked table first handle raw target = first := by
  funext k
  by_cases apart : k = handle
  · subst apart
    rw [asked]
    cases fixed : first k with
    | some => rfl
    | none =>
        rw [Option.none_or, Option.bind_eq_none_iff]
        intro own recorded
        rw [if_neg fun both => refused fixed own recorded both.2]
  · exact asked_other apart raw target

theorem resolves (tracks : table.Tracks literals first) {handle : Nat} {entry : Entry}
    (found : table.entry? handle = some entry) (unfixed : first handle = none) (target : Target) :
    (table.resolveAs handle entry.raw target).2.Tracks literals
      (asked table first handle entry.raw target) := by
  have pending := tracks.entry?_eq_some found
  rw [unfixed, Option.map_none] at pending
  have recorded : table.recorded? handle = some (entry.raw, entry.span) := by
    rw [recorded?, found]
    rfl
  refine ⟨?_, tracks.handles, ?_, ?_⟩
  · rw [size_resolveAs, tracks.size]
  · intro k t member
    have cell := tracks.cells k t member
    by_cases own : k + 1 = handle
    · subst own
      rw [entry?_resolveAs_self found pending, asked, unfixed, recorded]
      rw [cell, Option.some.injEq] at found
      simp [← found]
    · rw [entry?_resolveAs table own, cell, asked_other own]
  · intro k beyond
    have absent : table.recorded? k = none :=
      recorded?_eq_none_iff.2 (.inr (by rw [tracks.size]; exact beyond))
    rw [asked, tracks.fresh k beyond, absent]
    rfl

theorem resolveAs (tracks : table.Tracks literals first) (handle : Nat) (raw : Bytes)
    (target : Target) :
    (table.resolveAs handle raw target).2.Tracks literals
      (asked table first handle raw target) := by
  -- The reasons to refuse, in the order in which they are looked at.
  cases found : table.entry? handle with
  | none =>
      have refused : asked table first handle raw target = first :=
        asked_of_refused fun _ own recorded => by simp [recorded?, found] at recorded
      rw [resolveAs_unknown found, refused]
      exact tracks
  | some entry =>
      by_cases same : raw = entry.raw
      · subst same
        cases fixed : first handle with
        | some earlier =>
            have refused : asked table first handle entry.raw target = first :=
              asked_of_refused fun unfixed => by simp [fixed] at unfixed
            have outcome := tracks.entry?_eq_some found
            rw [fixed, Option.map_some] at outcome
            rw [resolveAs_resolved found outcome, refused]
            exact tracks
        | none => exact tracks.resolves found fixed target
      · have refused : asked table first handle raw target = first := by
          apply asked_of_refused
          intro _ own held
          rw [recorded?, found, Option.map_some, Option.some.injEq] at held
          rw [← held]
          exact same
        rw [resolveAs_mismatch found same, refused]
        exact tracks

end Tracks

end LiteralTable

namespace Lexer

inductive Request where
  | scan
  | resolve (handle : Nat) (raw : Bytes) (oidIri : Bool)
  | resolveAs (handle : Nat) (raw : Bytes) (target : Target)
  | resolveToken (token : Option Token) (oidIri : Bool)
  | value (handle : Nat)
  | recorded (handle : Nat)
  | pending

inductive Answer where
  | scanned (s : Scanned)
  | outcome (o : Except Error Value)
  | recorded (own : Option (Bytes × Span))
  | handles (list : List Nat)

def resolving (l : Lexer) (resolve : LiteralTable → Except Error Value × LiteralTable) :
    Answer × Lexer :=
  let (outcome, literals) := resolve l.literals
  (.outcome outcome, { l with literals })

def answer (l : Lexer) : Request → Answer × Lexer
  | .scan =>
    let (scanned, l) := l.scan
    (.scanned scanned, l)
  | .resolve handle raw oidIri => l.resolving (·.resolve handle raw oidIri)
  | .resolveAs handle raw target => l.resolving (·.resolveAs handle raw target)
  | .resolveToken token oidIri => l.resolving (·.resolveToken token oidIri)
  | .value handle => (.outcome (l.literals.value handle), l)
  | .recorded handle => (.recorded (l.literals.recorded? handle), l)
  | .pending => (.handles l.literals.pending, l)

def afterRequests (l : Lexer) : List Request → Lexer
  | [] => l
  | r :: rest => (l.answer r).2.afterRequests rest

def Request.issues (l : Lexer) : Request → List Token
  | .scan => literalsOf l.scan.1.token?.toList
  | _ => []

def issued (l : Lexer) : List Request → List Token
  | [] => []
  | r :: rest => r.issues l ++ (l.answer r).2.issued rest

def Request.resolution? : Request → Option (Nat × Bytes × Target)
  | .resolve handle raw oidIri => some (handle, raw, Target.ofOidIri oidIri)
  | .resolveAs handle raw target => some (handle, raw, target)
  | .resolveToken (some t) oidIri =>
    if t.isLiteral then some (t.handle, t.text, Target.ofOidIri oidIri) else none
  | _ => none

def Request.targetFor? (l : Lexer) (handle : Nat) (r : Request) : Option Target :=
  r.resolution?.bind fun (named, raw, target) =>
    (l.literals.recorded? handle).bind fun own =>
      if named = handle ∧ raw = own.1 then some target else none

/-- The target of the first request that named a literal, known by then, with its own text. -/
def firstTarget? (l : Lexer) (handle : Nat) : List Request → Option Target
  | [] => none
  | r :: rest => (r.targetFor? l handle).or ((l.answer r).2.firstTarget? handle rest)

theorem issued_append (l : Lexer) (before later : List Request) :
    l.issued (before ++ later) = l.issued before ++ (l.afterRequests before).issued later := by
  induction before generalizing l with
  | nil => rfl
  | cons r before ih =>
      rw [List.cons_append, issued, issued, ih, List.append_assoc]
      rfl

theorem firstTarget?_append (l : Lexer) (handle : Nat) (before later : List Request) :
    l.firstTarget? handle (before ++ later)
      = (l.firstTarget? handle before).or ((l.afterRequests before).firstTarget? handle later) := by
  induction before generalizing l with
  | nil => rfl
  | cons r before ih =>
      rw [List.cons_append, firstTarget?, firstTarget?, ih, Option.or_assoc]
      rfl

theorem answer_of_resolution {r : Request} {handle : Nat} {raw : Bytes} {target : Target}
    (resolution : r.resolution? = some (handle, raw, target)) (l : Lexer) :
    l.answer r = l.resolving (·.resolveAs handle raw target) := by
  cases r with
  | resolve | resolveAs =>
      cases resolution
      rfl
  | resolveToken token oidIri =>
      cases token with
      | none => cases resolution
      | some t =>
          rw [Request.resolution?] at resolution
          split_ifs at resolution with literal
          cases resolution
          simp only [answer, LiteralTable.resolveToken, literal, if_true, LiteralTable.resolve]
  | _ => cases resolution

theorem targetFor?_of_recorded {l : Lexer} {r : Request} {handle : Nat} {raw : Bytes} {span : Span}
    {target : Target} (resolution : r.resolution? = some (handle, raw, target))
    (recorded : l.literals.recorded? handle = some (raw, span)) :
    r.targetFor? l handle = some target := by
  simp [Request.targetFor?, resolution, recorded]

theorem answer_of_no_literal {token : Option Token} (other : ∀ t ∈ token, ¬ t.isLiteral)
    (oidIri : Bool) (l : Lexer) :
    l.answer (.resolveToken token oidIri)
      = (.outcome (.error (LiteralTable.misuse .unknownHandle 0)), l) := by
  cases token with
  | none => rfl
  | some t =>
      have plain : ¬ t.isLiteral := other t rfl
      simp only [answer, resolving, LiteralTable.resolveToken, plain]
      rfl

theorem answer_of_unasked {token : Option Token} {oidIri : Bool}
    (unasked : (Request.resolveToken token oidIri).resolution? = none) (l : Lexer) :
    l.answer (.resolveToken token oidIri)
      = (.outcome (.error (LiteralTable.misuse .unknownHandle 0)), l) := by
  apply answer_of_no_literal
  rintro t rfl literal
  simp [Request.resolution?, literal] at unasked

theorem Standing.issues {l : Lexer} {chars : List Char} (standing : l.Standing chars) :
    (literalsOf l.scan.1.token?.toList = [] ∧ l.scan.2.literals = l.literals) ∨
      ∃ t, literalsOf l.scan.1.token?.toList = [t] ∧ t.handle = l.literals.size + 1 ∧
        l.scan.2.literals = l.literals.add t.text t.span := by
  have ending (chars : List Char) (i : Nat) (ending : Ending) :
      literalsOf (ending.scanned chars i).token?.toList = [] := by
    cases ending <;> rfl
  cases standing with
  | stopped cut final =>
      rw [scan_of_final final]
      exact .inl ⟨ending _ _ _, rfl⟩
  | going i reads =>
      have steps := scan_steps reads
      generalize l.scan.1 = scanned, l.scan.2 = after at steps
      cases steps with
      | ended cut ends => exact .inl ⟨ending _ _ _, ends.literals⟩
      | @passed x left after ahead numbered lexeme read mild passes =>
          have table : after.literals
              = ⟨l.literals.entries ++ (x.literal? chars).toList.toArray⟩ := by
            refine congrArg LiteralTable.mk (Array.toList_inj.1 ?_)
            rw [passes.literals, Array.toList_append]
          rcases x.literal_or_other chars read with ⟨literal, handle, _, cell⟩ | ⟨other, _, none⟩
          · refine .inr ⟨x.token chars, ?_, by rw [handle, numbered], ?_⟩
            · simp [literalsOf, Scanned.token?, literal]
            · rw [table, cell]
              simp [LiteralTable.add]
          · refine .inl ⟨?_, ?_⟩
            · simp [literalsOf, Scanned.token?, other]
            · rw [table, none]
              simp

theorem Standing.withLiterals {l : Lexer} {chars : List Char} (standing : l.Standing chars)
    (literals : LiteralTable) : { l with literals }.Standing chars := by
  cases standing with
  | going i reads => exact .going i ⟨reads.rest, reads.here, reads.going⟩
  | stopped cut final => exact .stopped cut final

/-- A lexer stands in its text, and its table tracks the literals that it has made known. -/
structure Tracks (l : Lexer) (chars : List Char) (literals : List Token)
    (first : Nat → Option Target) : Prop where
  standing : l.Standing chars
  table : l.literals.Tracks literals first

theorem Tracks.answer {l : Lexer} {chars : List Char} {literals : List Token}
    {first : Nat → Option Target} (tracks : l.Tracks chars literals first) (r : Request) :
    (l.answer r).2.Tracks chars (literals ++ r.issues l)
      (fun handle => (first handle).or (r.targetFor? l handle)) := by
  -- A request resolves and makes nothing known, or makes something known and resolves nothing.
  cases resolution : r.resolution? with
  | some named =>
      obtain ⟨handle, raw, target⟩ := named
      have nothing : r.issues l = [] := by cases r <;> first | rfl | cases resolution
      have resolved := tracks.table.resolveAs handle raw target
      rw [answer_of_resolution resolution, nothing, List.append_nil]
      simp only [Request.targetFor?, resolution]
      exact ⟨tracks.standing.withLiterals _, resolved⟩
  | none =>
      have unasked : (fun handle => (first handle).or (r.targetFor? l handle)) = first := by
        funext handle
        rw [Request.targetFor?, resolution, Option.bind_none, Option.or_none]
      rw [unasked]
      cases r with
      | scan =>
          refine ⟨tracks.standing.scan, ?_⟩
          change l.scan.2.literals.Tracks (literals ++ literalsOf l.scan.1.token?.toList) first
          rcases tracks.standing.issues with ⟨nothing, same⟩ | ⟨t, one, handle, added⟩
          · rw [nothing, same, List.append_nil]
            exact tracks.table
          · rw [one, added]
            exact tracks.table.add handle
      | resolve | resolveAs => cases resolution
      | resolveToken =>
          rw [answer_of_unasked resolution]
          exact (List.append_nil literals).symm ▸ tracks
      | value | recorded | pending => exact (List.append_nil literals).symm ▸ tracks

theorem Tracks.afterRequests {l : Lexer} {chars : List Char} {literals : List Token}
    {first : Nat → Option Target} (tracks : l.Tracks chars literals first)
    (requests : List Request) :
    (l.afterRequests requests).Tracks chars (literals ++ l.issued requests)
      (fun handle => (first handle).or (l.firstTarget? handle requests)) := by
  induction requests generalizing l literals first with
  | nil => simpa [Lexer.afterRequests, issued, firstTarget?] using tracks
  | cons r requests ih =>
      have later := ih (tracks.answer r)
      simpa only [Lexer.afterRequests, issued, firstTarget?, List.append_assoc, Option.or_assoc]
        using later

theorem tracks_start (settings : Settings) (source : Source) (requests : List Request) :
    ((start settings source).afterRequests requests).literals.Tracks
      ((start settings source).issued requests)
      (fun handle => (start settings source).firstTarget? handle requests) := by
  obtain ⟨_, _, literals, _⟩ := start_fields settings source
  have empty : (start settings source).literals.Tracks [] (fun _ => none) := by
    refine ⟨?_, rfl, by simp, by simp⟩
    rw [LiteralTable.size, literals]
    rfl
  have tracks : (start settings source).Tracks source.chars [] (fun _ => none) :=
    ⟨standing_start settings source, empty⟩
  simpa using (tracks.afterRequests requests).table

structure WriteOnce (l : Lexer) (requests : List Request) : Prop where
  numbered : (l.issued requests).map Token.handle = List.range' 1 (l.issued requests).length
  recorded : ∀ handle, (l.afterRequests requests).literals.recorded? handle
    = if handle = 0 then none
      else (l.issued requests)[handle - 1]?.map (fun t => (t.text, t.span))
  keeps : ∀ handle own later, (l.afterRequests requests).literals.recorded? handle = some own →
    (l.afterRequests (requests ++ later)).literals.recorded? handle = some own
  unknown : ∀ r handle raw target, r.resolution? = some (handle, raw, target) →
    handle = 0 ∨ (l.issued requests).length < handle →
    (l.afterRequests requests).answer r
      = (.outcome (.error (LiteralTable.misuse .unknownHandle handle)), l.afterRequests requests)
  noLiteral : ∀ token oidIri, (∀ t ∈ token, ¬ t.isLiteral) →
    (l.afterRequests requests).answer (.resolveToken token oidIri)
      = (.outcome (.error (LiteralTable.misuse .unknownHandle 0)), l.afterRequests requests)
  mismatch : ∀ r handle raw target own, r.resolution? = some (handle, raw, target) →
    (l.afterRequests requests).literals.recorded? handle = some own → raw ≠ own.1 →
    (l.afterRequests requests).answer r
      = (.outcome (.error (LiteralTable.misuse .handleMismatch handle)), l.afterRequests requests)
  again : ∀ r handle raw span target, r.resolution? = some (handle, raw, target) →
    (l.afterRequests requests).literals.recorded? handle = some (raw, span) →
    (l.firstTarget? handle requests).isSome →
    (l.afterRequests requests).answer r
      = (.outcome (.error (LiteralTable.misuse .resolvedTwice handle)), l.afterRequests requests)
  fixes : ∀ r handle raw span target, r.resolution? = some (handle, raw, target) →
    (l.afterRequests requests).literals.recorded? handle = some (raw, span) →
    l.firstTarget? handle requests = none →
    ((l.afterRequests requests).answer r).1 = .outcome (interpret handle raw span target) ∧
      ∀ later, (l.afterRequests (requests ++ r :: later)).literals.value handle
        = interpret handle raw span target
  value : ∀ handle, (l.afterRequests requests).literals.value handle
    = match (l.afterRequests requests).literals.recorded? handle with
      | none => .error (LiteralTable.misuse .unknownHandle handle)
      | some (raw, span) =>
        match l.firstTarget? handle requests with
        | none => .error (LiteralTable.misuse .unresolved handle)
        | some target => interpret handle raw span target
  pending : (l.afterRequests requests).literals.pending
    = (List.range' 1 (l.issued requests).length).filter
        (fun handle => (l.firstTarget? handle requests).isNone)

theorem recorded_keeps (settings : Settings) (source : Source) (requests later : List Request)
    {handle : Nat} {own : Bytes × Span}
    (recorded : ((start settings source).afterRequests requests).literals.recorded? handle
      = some own) :
    ((start settings source).afterRequests (requests ++ later)).literals.recorded? handle
      = some own := by
  rw [(tracks_start settings source requests).recorded?_eq] at recorded
  rw [(tracks_start settings source (requests ++ later)).recorded?_eq, issued_append]
  split_ifs at recorded ⊢ with zero
  obtain ⟨t, member, same⟩ := Option.map_eq_some_iff.1 recorded
  rw [List.getElem?_append_left (List.getElem?_eq_some_iff.1 member).1, member, Option.map_some,
    same]

/-- For every source, every sequence of requests to its lexer and to the table of its literals, and
every request that may come next. A literal has the text and the span of the token that made it
known, and keeps them. The first request that names a known literal with its own text fixes the
outcome, be it a value or an error: it is what the request is answered with, and what the table
gives for the literal ever after. Every other request to resolve a literal is refused, by the first
of three reasons that holds, and changes nothing: the handle is not known, the text is another one,
the outcome is fixed. Before that the literal is unresolved, and the pending handles are those of
the unresolved literals in ascending order. -/
theorem resolution_write_once (settings : Settings) (source : Source) (requests : List Request) :
    (start settings source).WriteOnce requests := by
  have tracks := tracks_start settings source requests
  refine ⟨tracks.handles, tracks.recorded?_eq, ?_, ?_, ?_, ?_, ?_, ?_, tracks.value_eq,
    tracks.pending_eq⟩
  · intro handle own later recorded
    exact recorded_keeps settings source requests later recorded
  · intro r handle raw target resolution unknown
    rw [← tracks.size, ← LiteralTable.entry?_eq_none_iff] at unknown
    rw [answer_of_resolution resolution, resolving, LiteralTable.resolveAs_unknown unknown]
  · intro token oidIri other
    exact answer_of_no_literal other oidIri _
  · intro r handle raw target own resolution recorded other
    obtain ⟨entry, found, rfl⟩ := Option.map_eq_some_iff.1 recorded
    rw [answer_of_resolution resolution, resolving, LiteralTable.resolveAs_mismatch found other]
  · intro r handle raw span target resolution recorded fixed
    obtain ⟨entry, found, same⟩ := Option.map_eq_some_iff.1 recorded
    cases same
    obtain ⟨first, fixed⟩ := Option.isSome_iff_exists.1 fixed
    have resolved := tracks.entry?_eq_some found
    rw [fixed, Option.map_some] at resolved
    rw [answer_of_resolution resolution, resolving,
      LiteralTable.resolveAs_resolved found resolved]
  · intro r handle raw span target resolution recorded unasked
    obtain ⟨entry, found, same⟩ := Option.map_eq_some_iff.1 recorded
    cases same
    have unresolved := tracks.entry?_eq_some found
    rw [unasked, Option.map_none] at unresolved
    constructor
    · rw [answer_of_resolution resolution, resolving,
        LiteralTable.resolveAs_pending found unresolved]
    · intro later
      have first : (start settings source).firstTarget? handle (requests ++ r :: later)
          = some target := by
        rw [firstTarget?_append, unasked, Option.none_or, firstTarget?,
          targetFor?_of_recorded resolution recorded, Option.some_or]
      rw [(tracks_start settings source _).value_eq,
        recorded_keeps settings source requests _ recorded, first]

end Lexer

end AsnLexis
