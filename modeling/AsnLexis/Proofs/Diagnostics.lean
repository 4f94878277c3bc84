import AsnLexis.Proofs.Run
import Mathlib

/-! Every lexeme that is no token has one diagnostic, and a fatal error has one. -/

namespace AsnLexis

def codeOf (c : Char) : Code :=
  if c = '\'' then .malformedString
  else if isDigit c then .malformedNumber
  else if isForeignSymbol c then .unknownPunctuation
  else .invalidIdentifier

theorem code?_faultOf (c : Char) : (Lexeme.faultOf c).code? = some (codeOf c) := by
  unfold Lexeme.faultOf codeOf
  split_ifs <;> rfl

theorem stopsScan_faultOf (c : Char) : (Lexeme.faultOf c).stopsScan = false := by
  unfold Lexeme.faultOf
  split_ifs <;> rfl

theorem code_of_faults {e : Error} {fault : Fault} {code : Code} (faults : e.faults = [fault])
    (known : fault.code? = some code) : e.code = code := by
  have found : (Fault.all.filter e.has).findSome? Fault.code? = some code := by
    rw [← known]
    unfold Error.has
    rw [faults]
    cases fault <;> rfl
  rw [Error.code, found]

theorem code_ofError {e : Error} {fault : Fault} {code : Code} (faults : e.faults = [fault])
    (known : fault.code? = some code) (span : Span) :
    (Diagnostic.ofError e span).code = utf8 code.name := by
  rw [← code_of_faults faults known]
  rfl

theorem isFatal_of_faults {e : Error} {fault : Fault} (faults : e.faults = [fault]) :
    e.isFatal = fault.stopsScan := by
  rw [Error.isFatal, faults]
  simp

/-- The diagnostic says what is wrong with the token, and where in its lexeme. -/
structure Explains (source : Source) (d : Diagnostic) (t : Token) : Prop where
  stop : d.span.stop = t.span.stop
  inside : t.span.start ≤ d.span.start ∧ d.span.start < t.span.stop
  place : ∃ c, source.HasScalar d.span.place c
  whole : d.code ≠ utf8 Code.invalidIdentifier.name → d.span = t.span
  code : ∃ c rest, source.sliceSpan t.span = Utf8.encode (c :: rest) ∧ d.code = utf8 (codeOf c).name

theorem Segmented.explains {p : Profile} {source : Source} {segments : List Segment}
    {ending : Ending} (cut : Segmented p source.chars segments ending)
    (encoded : source.text = Utf8.encode source.chars) {k i : Nat} {x : Placed}
    (member : x ∈ layout 0 k segments) (index : i ≤ x.segment.tail.length) {e : Error}
    (faults : e.faults = [Lexeme.faultOf x.segment.head])
    (first : Lexeme.faultOf x.segment.head ≠ .invalidIdentifier → i = 0) :
    Explains source
      (.ofError e ((Position.within source.chars (x.start + i)).spanTo
        (Position.within source.chars x.stop)))
      (x.token source.chars) := by
  have before : x.start + i < x.stop := by
    rw [Placed.stop, Segment.lexeme, List.length_cons]
    omega
  have inside : x.start + i < source.chars.length := Nat.lt_of_lt_of_le before (cut.stop_le member)
  have code := code_ofError faults (code?_faultOf x.segment.head)
  constructor
  · rw [Placed.span_token]
    rfl
  · rw [Placed.span_token]
    exact ⟨Position.offset_within_le _ (Nat.le_add_right _ _),
      Position.offset_within_lt inside before⟩
  · refine ⟨source.chars[x.start + i], x.start + i, ?_⟩
    rw [Source.at?_eq, List.getElem?_eq_getElem inside]
    rfl
  · intro other
    have zero : i = 0 := by
      apply first
      intro word
      have named := code?_faultOf x.segment.head
      rw [word] at named
      rw [code, ← Option.some.inj named] at other
      exact other rfl
    rw [Placed.span_token, zero]
    rfl
  · exact ⟨x.segment.head, x.segment.tail, cut.sliceSpan_token encoded member, code _⟩

inductive Accounted (source : Source) (x : Placed) : Prop
  | token (silent : x.diagnostic? source.chars = none)
      (known : (x.token source.chars).kind ≠ .unknown)
  | flawed (d : Diagnostic) (found : x.diagnostic? source.chars = some d)
      (unknown : (x.token source.chars).kind = .unknown) (mild : d.fatal = false)
      (explains : Explains source d (x.token source.chars))

theorem Segmented.accounted {p : Profile} {source : Source} {segments : List Segment}
    {ending : Ending} (cut : Segmented p source.chars segments ending)
    (encoded : source.text = Utf8.encode source.chars) (x : Placed)
    (member : x ∈ layout 0 0 segments) : Accounted source x := by
  have listed := segment_of_mem_layout member
  obtain ⟨left, read, mild⟩ := cut.read_of_mem listed
  have reads := congrArg Lexeme.Front.reading read
  cases reading : x.segment.reading with
  | plain kind =>
      apply Accounted.token
      · simp only [Placed.diagnostic?, reading]
      · simp only [Placed.token, reading]
        rintro rfl
        exact Lexeme.kind_of_plain (reads.trans reading) (by decide)
  | literal =>
      apply Accounted.token
      · simp only [Placed.diagnostic?, reading]
      · simp [Placed.token, reading]
  | word id =>
      apply Accounted.token
      · simp only [Placed.diagnostic?, reading]
      · simp only [Placed.token, reading]
        split <;> simp
  | badWord i flaw =>
      have fault := (Lexeme.badWord_index_le (reads.trans reading)).2
      apply Accounted.flawed _ (by simp only [Placed.diagnostic?, reading]; rfl)
      · simp only [Placed.token, reading]
      · rfl
      · apply cut.explains encoded member (cut.index_le listed reading)
        · rw [fault]
          rfl
        · intro other
          exact absurd fault other
  | malformed fault =>
      obtain ⟨rfl, _⟩ := Lexeme.fault_of_malformed (reads.trans reading)
      apply Accounted.flawed _ (by simp only [Placed.diagnostic?, reading]; rfl)
      · simp only [Placed.token, reading]
      · exact (isFatal_of_faults rfl).trans (stopsScan_faultOf _)
      · exact cut.explains encoded member (Nat.zero_le _) rfl (fun _ => rfl)
  | fatal fault => exact absurd reading (mild fault)

theorem forall₂_explains {source : Source} {xs : List Placed}
    (accounted : ∀ x ∈ xs, Accounted source x) :
    List.Forall₂ (Explains source)
      ((xs.filterMap (Placed.diagnostic? source.chars)).filter (!·.fatal))
      ((xs.map (Placed.token source.chars)).filter (·.kind = .unknown)) := by
  induction xs with
  | nil => exact .nil
  | cons x xs ih =>
      have later := ih (fun y member => accounted y (List.mem_cons_of_mem x member))
      cases accounted x List.mem_cons_self with
      | token silent known => simpa [silent, known] using later
      | flawed d found unknown mild explains =>
          have both := List.Forall₂.cons explains later
          simpa [found, unknown, mild] using both

theorem mild_of_accounted {source : Source} {xs : List Placed}
    (accounted : ∀ x ∈ xs, Accounted source x) :
    ∀ d ∈ xs.filterMap (Placed.diagnostic? source.chars), d.fatal = false := by
  intro d member
  obtain ⟨x, inside, found⟩ := List.mem_filterMap.1 member
  cases accounted x inside with
  | token silent _ =>
      rw [silent] at found
      cases found
  | flawed e found' _ mild _ =>
      rw [found', Option.some.injEq] at found
      rwa [← found]

/-- Either there is no fatal error and no fatal diagnostic, or the last diagnostic is the only fatal
one and is about the fatal error. -/
inductive Tokenized.FatalLast (r : Tokenized) : Prop
  | sound (none : r.fatal = none) (mild : ∀ d ∈ r.diagnostics, d.fatal = false)
  | stopped (e : LexError) (front : List Diagnostic) (d : Diagnostic)
      (fatal : r.fatal = some (.lexical e)) (last : r.diagnostics = front ++ [d])
      (marked : d.fatal = true) (mild : ∀ x ∈ front, x.fatal = false)
      (code : d.code = utf8 (Error.lexical e).code.name) (span : d.span = e.span)

theorem Segmented.fatal_ofError {p : Profile} {cs : List Char} {segments : List Segment}
    {gap tail left : List Char} {head : Char} {fault : Fault}
    (cut : Segmented p cs segments (.fatal gap head tail left fault)) {e : LexError}
    (reason : e.reason = .fault fault) (span : Span) :
    (Diagnostic.ofError (.lexical e) span).fatal = true := by
  have faults : (Error.lexical e).faults = [fault] := by
    rw [Error.faults, reason]
    rfl
  have stops : fault.stopsScan = true := by
    rcases cut.fatal_ending with ⟨rfl | rfl, _⟩ | ⟨rfl, _⟩ <;> rfl
  exact (isFatal_of_faults faults).trans stops

theorem Segmented.fatalLast {p : Profile} {source : Source} {segments : List Segment}
    {ending : Ending} {r : Tokenized} (encoded : source.text = Utf8.encode source.chars)
    (cut : Segmented p source.chars segments ending)
    (outlined : Outlined r source.chars segments ending) : r.FatalLast := by
  have mild := mild_of_accounted (cut.accounted encoded)
  have diagnostics := outlined.diagnostics
  cases ending with
  | finished gap =>
      apply Tokenized.FatalLast.sound outlined.fatal
      rw [diagnostics]
      simpa [Ending.scanned, Scanned.error?] using mild
  | fatal gap head tail left fault =>
      exact .stopped _ _ _ outlined.fatal diagnostics (cut.fatal_ofError rfl _) mild rfl rfl

/-- The diagnostics that are not fatal explain the unknown tokens of a well-formed source, one each
and in order, by a code that the first scalar of the lexeme decides; a fatal diagnostic is there
exactly for a fatal error, and comes last. -/
theorem diagnostics_explain_unknown (name : Bytes) (settings : Settings) {input : Bytes}
    {source : Source} (decoded : Source.read input = .ok source) :
    let r := tokenize name settings input
    List.Forall₂ (Explains source) (r.diagnostics.filter (!·.fatal))
      (r.tokens.filter (·.kind = .unknown)) ∧ r.FatalLast := by
  intro r
  have encoded := (Source.read_eq_ok_iff.1 decoded).2
  obtain ⟨segments, ending, cut⟩ := exists_segmented settings.profile source.chars
  have outlined : Outlined r source.chars segments ending := cut.outlined name decoded
  refine ⟨?_, cut.fatalLast encoded outlined⟩
  have explained := forall₂_explains (cut.accounted encoded)
  rw [outlined.diagnostics, outlined.tokens, List.filter_append, List.filter_append]
  cases ending with
  | finished gap => simpa [Ending.scanned, Scanned.error?, Scanned.token?] using explained
  | fatal gap head tail left fault =>
      have marked {e : LexError} (reason : e.reason = .fault fault) (span : Span) :
          (Diagnostic.ofError (.lexical e) span).fatal = true := cut.fatal_ofError reason span
      simpa [Ending.scanned, Scanned.error?, Scanned.token?, marked] using explained

theorem diagnostics_explain_flawed_marks :
    let cs := ['\'', '2', '\'', 'B', '0', '1', '#', 'a', '-', ' ', 'é', '"']
    let r := tokenize [] ⟨[], .ascii⟩ (Utf8.encode cs)
    Source.read (Utf8.encode cs) = .ok ⟨false, Utf8.encode cs, cs⟩ ∧
      List.Forall₂ (Explains ⟨false, Utf8.encode cs, cs⟩) (r.diagnostics.filter (!·.fatal))
        (r.tokens.filter (·.kind = .unknown)) ∧ r.FatalLast :=
  have decoded := Source.read_encode (by decide)
  ⟨decoded, diagnostics_explain_unknown [] ⟨[], .ascii⟩ decoded⟩

end AsnLexis
