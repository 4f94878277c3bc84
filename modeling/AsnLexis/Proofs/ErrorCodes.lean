import AsnLexis.Error
import Mathlib

/-! Codes of errors. An error is a tree: below it stand the errors that it wraps. Its code is the
first, in one order of all codes, that is called for anywhere in the tree. So an error stops a scan
exactly if its code says so, a wrapper keeps the code, and a join has the first of its members'
codes, however they are grouped. -/

namespace AsnLexis

namespace Code

def ranked : List Code := [
  encoding, unterminatedComment, unterminatedString, unexpectedCharacter, invalidIdentifier,
  malformedNumber, malformedString, unknownPunctuation, invalidOidIri, internal, unknown]

def rank (c : Code) : Nat := ranked.idxOf c

def stopping : List Code :=
  [encoding, unterminatedComment, unterminatedString, unexpectedCharacter]

/-- `c` is one of the codes that are called for, and no other of them counts before it. -/
structure First (called : Code → Prop) (c : Code) : Prop where
  member : called c
  least : ∀ d, called d → c.rank ≤ d.rank

theorem mem_ranked (c : Code) : c ∈ ranked := by
  cases c <;> decide

theorem rank_inj {c d : Code} (same : c.rank = d.rank) : c = d :=
  (List.idxOf_inj c.mem_ranked).1 same

theorem rank_le_unknown (c : Code) : c.rank ≤ unknown.rank := by
  cases c <;> decide

theorem mem_stopping_iff {c : Code} : c ∈ stopping ↔ c.rank ≤ unexpectedCharacter.rank := by
  cases c <;> decide

theorem First.unique {called : Code → Prop} {c d : Code} (first : First called c)
    (other : First called d) : c = d :=
  rank_inj (Nat.le_antisymm (first.least d other.member) (other.least c first.member))

end Code

namespace Fault

theorem mem_all (f : Fault) : f ∈ all := by
  cases f <;> decide

theorem sorted_all :
    all.Pairwise fun f g => ∀ c ∈ f.code?, ∀ d ∈ g.code?, c.rank ≤ d.rank := by
  decide

theorem rank_lt_internal {f : Fault} {c : Code} (coded : f.code? = some c) :
    c.rank < Code.internal.rank := by
  cases f <;> cases coded <;> decide

theorem stopsScan_iff {f : Fault} : f.stopsScan ↔ ∃ c ∈ Code.stopping, f.code? = some c := by
  cases f <;> decide

end Fault

namespace Error

def causes : Error → List Error
  | .plain _ => []
  | .encoding _ => [.plain (.fault .invalidUtf8)]
  | .lexical e => [.plain e.reason]
  | .identifier _ => [.plain (.fault .invalidIdentifier)]
  | .literal e cause => .plain e.reason :: cause.toList
  | .internal e => [.plain e.reason]
  | .iri _ => []
  | .file _ _ cause => [cause]
  | .database _ cause => [cause]
  | .scanFatal _ _ cause => [cause]
  | .wrap _ cause => [cause]
  | .join causes => causes

inductive Carries : Error → Error → Prop
  | root (x : Error) : Carries x x
  | through {e c x : Error} (wrapped : c ∈ e.causes) (carried : Carries c x) : Carries e x

theorem plain_of_causes {motive : Error → Prop} (step : ∀ e, (∀ c ∈ e.causes, motive c) → motive e)
    (reason : Reason) : motive (.plain reason) :=
  step _ (List.forall_mem_nil _)

mutual

theorem tree_induction {motive : Error → Prop}
    (step : ∀ e, (∀ c ∈ e.causes, motive c) → motive e) : ∀ e, motive e
  | .plain reason => plain_of_causes step reason
  | .encoding _ => step _ (List.forall_mem_singleton.2 (plain_of_causes step _))
  | .lexical _ => step _ (List.forall_mem_singleton.2 (plain_of_causes step _))
  | .identifier _ => step _ (List.forall_mem_singleton.2 (plain_of_causes step _))
  | .literal _ cause =>
      step _ (List.forall_mem_cons.2 ⟨plain_of_causes step _, cause_induction step cause⟩)
  | .internal _ => step _ (List.forall_mem_singleton.2 (plain_of_causes step _))
  | .iri _ => step _ (List.forall_mem_nil _)
  | .file _ _ cause => step _ (List.forall_mem_singleton.2 (tree_induction step cause))
  | .database _ cause => step _ (List.forall_mem_singleton.2 (tree_induction step cause))
  | .scanFatal _ _ cause => step _ (List.forall_mem_singleton.2 (tree_induction step cause))
  | .wrap _ cause => step _ (List.forall_mem_singleton.2 (tree_induction step cause))
  | .join causes => step _ (forest_induction step causes)

theorem cause_induction {motive : Error → Prop}
    (step : ∀ e, (∀ c ∈ e.causes, motive c) → motive e) :
    ∀ cause : Option Error, ∀ c ∈ cause.toList, motive c
  | none => List.forall_mem_nil _
  | some cause => List.forall_mem_singleton.2 (tree_induction step cause)

theorem forest_induction {motive : Error → Prop}
    (step : ∀ e, (∀ c ∈ e.causes, motive c) → motive e) : ∀ es : List Error, ∀ c ∈ es, motive c
  | [] => List.forall_mem_nil _
  | e :: es => List.forall_mem_cons.2 ⟨tree_induction step e, forest_induction step es⟩

end

theorem carries_iff {e x : Error} : e.Carries x ↔ x = e ∨ ∃ c ∈ e.causes, c.Carries x := by
  constructor
  · intro carries
    cases carries with
    | root => exact .inl rfl
    | through wrapped carried => exact .inr ⟨_, wrapped, carried⟩
  · rintro (rfl | ⟨c, wrapped, carried⟩)
    · exact .root x
    · exact .through wrapped carried

theorem faultsOfAll_eq (es : List Error) : faultsOfAll es = es.flatMap faults := by
  induction es with
  | nil => rfl
  | cons e es ih => rw [faultsOfAll, ih, List.flatMap_cons]

theorem anyHasInternal_eq (es : List Error) : anyHasInternal es = es.any hasInternal := by
  induction es with
  | nil => rfl
  | cons e es ih => rw [anyHasInternal, ih, List.any_cons]

theorem mem_faults_iff_causes {e : Error} {f : Fault} :
    f ∈ e.faults ↔ .plain (.fault f) = e ∨ ∃ c ∈ e.causes, f ∈ c.faults := by
  cases e with
  | plain reason => cases reason <;> simp [faults, Reason.faults, causes]
  | literal e cause => cases cause <;> simp [faults, causeFaults, causes]
  | join es => simp [faults, causes, faultsOfAll_eq]
  | _ => simp [faults, Reason.faults, causes]

theorem hasInternal_iff_causes {e : Error} :
    e.hasInternal ↔ (∃ i, .internal i = e) ∨ ∃ c ∈ e.causes, c.hasInternal := by
  cases e with
  | literal e cause => cases cause <;> simp [hasInternal, causeHasInternal, causes]
  | join es => simp [hasInternal, causes, anyHasInternal_eq]
  | _ => simp [hasInternal, causes]

theorem mem_faults_iff {e : Error} {f : Fault} :
    f ∈ e.faults ↔ e.Carries (.plain (.fault f)) := by
  induction e using tree_induction with
  | step e ih =>
      rw [mem_faults_iff_causes, carries_iff]
      refine or_congr Iff.rfl (exists_congr fun c => and_congr_right fun wrapped => ih c wrapped)

theorem hasInternal_iff {e : Error} : e.hasInternal ↔ ∃ i, e.Carries (.internal i) := by
  induction e using tree_induction with
  | step e ih =>
      rw [hasInternal_iff_causes]
      constructor
      · rintro (⟨i, rfl⟩ | ⟨c, wrapped, carried⟩)
        · exact ⟨i, .root _⟩
        · obtain ⟨i, carried⟩ := (ih c wrapped).1 carried
          exact ⟨i, .through wrapped carried⟩
      · rintro ⟨i, carries⟩
        rcases carries_iff.1 carries with root | ⟨c, wrapped, carried⟩
        · exact .inl ⟨i, root⟩
        · exact .inr ⟨c, wrapped, (ih c wrapped).2 ⟨i, carried⟩⟩

/-- The codes that an error calls for. Every error calls for the last of all codes. -/
inductive Calls (e : Error) : Code → Prop
  | fault {f : Fault} {c : Code} (coded : f.code? = some c)
      (carried : e.Carries (.plain (.fault f))) : Calls e c
  | internal {i : InternalError} (carried : e.Carries (.internal i)) : Calls e .internal
  | unknown : Calls e .unknown

theorem first_code (e : Error) : Code.First e.Calls e.code := by
  have listed {f : Fault} (carried : e.Carries (.plain (.fault f))) :
      f ∈ Fault.all.filter e.has := by
    refine List.mem_filter.2 ⟨f.mem_all, ?_⟩
    rw [has, List.contains_iff_mem]
    exact mem_faults_iff.2 carried
  have sorted := Fault.sorted_all.sublist (List.filter_sublist (p := e.has))
  rw [code]
  -- Faults are listed by the rank of their codes, so the first one found that has a code has the
  -- least.
  cases found : (Fault.all.filter e.has).findSome? Fault.code? with
  | some c =>
      obtain ⟨before, f, after, split, coded, silent⟩ := List.findSome?_eq_some_iff.1 found
      have held : e.has f := (List.mem_filter.1 (split ▸ List.mem_append_cons_self)).2
      refine ⟨.fault coded (mem_faults_iff.1 (List.contains_iff_mem.1 held)), ?_⟩
      intro d called
      cases called with
      | @fault g d own carried =>
          have member := listed carried
          rw [split] at member sorted
          rcases List.mem_append.1 member with early | late
          · rw [silent g early] at own
            cases own
          · rcases List.mem_cons.1 late with rfl | late
            · rw [Option.some.inj (coded.symm.trans own)]
            · exact List.rel_of_pairwise_cons (List.pairwise_append.1 sorted).2.1 late c coded d own
      | internal => exact (Fault.rank_lt_internal coded).le
      | unknown => exact c.rank_le_unknown
  | none =>
      have uncoded {f : Fault} {c : Code} (coded : f.code? = some c)
          (carried : e.Carries (.plain (.fault f))) : False := by
        rw [List.findSome?_eq_none_iff.1 found f (listed carried)] at coded
        cases coded
      by_cases misused : e.hasInternal
      · rw [if_pos misused]
        obtain ⟨i, carried⟩ := hasInternal_iff.1 misused
        refine ⟨.internal carried, ?_⟩
        intro d called
        cases called with
        | fault coded carried => exact (uncoded coded carried).elim
        | internal => exact Nat.le_refl _
        | unknown => exact Code.rank_le_unknown _
      · rw [if_neg misused]
        refine ⟨.unknown, ?_⟩
        intro d called
        cases called with
        | fault coded carried => exact (uncoded coded carried).elim
        | internal carried => exact (misused (hasInternal_iff.2 ⟨_, carried⟩)).elim
        | unknown => exact Nat.le_refl _

theorem code_eq_of_calls {e e' : Error} (same : ∀ c, e.Calls c ↔ e'.Calls c) :
    e.code = e'.code := by
  have first := e'.first_code
  refine e.first_code.unique ⟨(same _).2 first.member, ?_⟩
  exact fun d called => first.least d ((same d).1 called)

theorem isFatal_iff {e : Error} : e.isFatal ↔ e.code ∈ Code.stopping := by
  have first := e.first_code
  rw [isFatal, List.any_eq_true]
  constructor
  · rintro ⟨f, held, stops⟩
    obtain ⟨c, stopping, coded⟩ := Fault.stopsScan_iff.1 stops
    have called : e.Calls c := .fault coded (mem_faults_iff.1 held)
    exact Code.mem_stopping_iff.2
      (Nat.le_trans (first.least c called) (Code.mem_stopping_iff.1 stopping))
  · intro stopping
    have called := first.member
    generalize e.code = c at stopping called
    cases called with
    | @fault f c coded carried =>
        exact ⟨f, mem_faults_iff.2 carried, Fault.stopsScan_iff.2 ⟨c, stopping, coded⟩⟩
    | internal => exact absurd stopping (by decide)
    | unknown => exact absurd stopping (by decide)

inductive Wraps : Error → Error → Prop
  | file (operation path : Bytes) (e : Error) : Wraps (file operation path e) e
  | database (operation : Bytes) (e : Error) : Wraps (database operation e) e
  | scanFatal (name : Bytes) (scan : Int) (e : Error) : Wraps (scanFatal name scan e) e
  | wrap (text : Bytes) (e : Error) : Wraps (wrap text e) e

theorem Wraps.causes_eq {w e : Error} (wraps : w.Wraps e) : w.causes = [e] := by
  cases wraps <;> rfl

theorem Wraps.calls_iff {w e : Error} (wraps : w.Wraps e) {c : Code} : w.Calls c ↔ e.Calls c := by
  have below {x : Error} (carried : e.Carries x) : w.Carries x :=
    .through (wraps.causes_eq ▸ List.mem_singleton_self e) carried
  have same {x : Error} (carried : w.Carries x) (other : x ≠ w) : e.Carries x := by
    rcases carries_iff.1 carried with root | ⟨c, wrapped, carried⟩
    · exact absurd root other
    · rw [wraps.causes_eq, List.mem_singleton] at wrapped
      exact wrapped ▸ carried
  constructor
  · intro called
    cases called with
    | fault coded carried => exact .fault coded (same carried (by cases wraps <;> simp))
    | internal carried => exact .internal (same carried (by cases wraps <;> simp))
    | unknown => exact .unknown
  · intro called
    cases called with
    | fault coded carried => exact .fault coded (below carried)
    | internal carried => exact .internal (below carried)
    | unknown => exact .unknown

theorem Wraps.code_eq {w e : Error} (wraps : w.Wraps e) : w.code = e.code :=
  code_eq_of_calls fun _ => wraps.calls_iff

mutual

/-- The members of a join, those of the joins in it among them. Any other error is its own. -/
def members : Error → List Error
  | .join causes => membersOfAll causes
  | e => [e]

def membersOfAll : List Error → List Error
  | [] => []
  | e :: rest => e.members ++ membersOfAll rest

end

theorem membersOfAll_eq (es : List Error) : membersOfAll es = es.flatMap members := by
  induction es with
  | nil => rfl
  | cons e es ih => rw [membersOfAll, ih, List.flatMap_cons]

theorem calls_join {es : List Error} {c : Code} :
    (join es).Calls c ↔ c = .unknown ∨ ∃ e ∈ es, e.Calls c := by
  constructor
  · intro called
    cases called with
    | fault coded carried =>
        rcases carries_iff.1 carried with root | ⟨e, member, carried⟩
        · cases root
        · exact .inr ⟨e, member, .fault coded carried⟩
    | internal carried =>
        rcases carries_iff.1 carried with root | ⟨e, member, carried⟩
        · cases root
        · exact .inr ⟨e, member, .internal carried⟩
    | unknown => exact .inl rfl
  · rintro (rfl | ⟨e, member, called⟩)
    · exact .unknown
    · cases called with
      | fault coded carried => exact .fault coded (.through member carried)
      | internal carried => exact .internal (.through member carried)
      | unknown => exact .unknown

theorem calls_members {e : Error} {c : Code} :
    e.Calls c ↔ c = .unknown ∨ ∃ x ∈ e.members, x.Calls c := by
  induction e using tree_induction with
  | step e ih =>
      have alone : e.members = [e] → (e.Calls c ↔ c = .unknown ∨ ∃ x ∈ e.members, x.Calls c) := by
        intro single
        rw [single]
        simp only [List.mem_singleton, exists_eq_left]
        constructor
        · exact .inr
        · rintro (rfl | called)
          · exact .unknown
          · exact called
      cases e with
      | join es =>
          rw [calls_join, members, membersOfAll_eq]
          constructor
          · rintro (rfl | ⟨e, member, called⟩)
            · exact .inl rfl
            · rcases (ih e member).1 called with rfl | ⟨x, below, called⟩
              · exact .inl rfl
              · exact .inr ⟨x, List.mem_flatMap_of_mem member below, called⟩
          · rintro (rfl | ⟨x, below, called⟩)
            · exact .inl rfl
            · obtain ⟨e, member, below⟩ := List.mem_flatMap.1 below
              exact .inr ⟨e, member, (ih e member).2 (.inr ⟨x, below, called⟩)⟩
      | _ => exact alone rfl

theorem first_of_calls {e : Error} {es : List Error} (some : es ≠ [])
    (calls : ∀ c, e.Calls c ↔ c = .unknown ∨ ∃ x ∈ es, x.Calls c) :
    Code.First (fun c => ∃ x ∈ es, x.code = c) e.code := by
  have least {x : Error} (member : x ∈ es) : e.code.rank ≤ x.code.rank :=
    e.first_code.least _ ((calls _).2 (.inr ⟨x, member, x.first_code.member⟩))
  have bound {x : Error} (member : x ∈ es) (called : x.Calls e.code) : x.code = e.code :=
    Code.rank_inj (Nat.le_antisymm (x.first_code.least _ called) (least member))
  refine ⟨?_, by rintro _ ⟨x, member, rfl⟩; exact least member⟩
  rcases (calls _).1 e.first_code.member with last | ⟨x, member, called⟩
  · obtain ⟨x, member⟩ := List.exists_mem_of_ne_nil es some
    exact ⟨x, member, bound member (last ▸ .unknown)⟩
  · exact ⟨x, member, bound member called⟩

theorem first_code_join {es : List Error} (some : es ≠ []) :
    Code.First (fun c => ∃ e ∈ es, e.code = c) (join es).code :=
  first_of_calls some fun _ => calls_join

theorem code_eq_of_members {e e' : Error} (same : ∀ x, x ∈ e.members ↔ x ∈ e'.members) :
    e.code = e'.code :=
  code_eq_of_calls fun _ => by rw [calls_members, calls_members]; simp only [same]

/-- What the code of an error says, for trees of any depth. -/
theorem codes_read_off_trees :
    (∀ e : Error, Code.First e.Calls e.code)
      ∧ (∀ e : Error, e.isFatal ↔ e.code ∈ Code.stopping)
      ∧ (∀ w e : Error, w.Wraps e → w.code = e.code)
      ∧ (∀ es : List Error, es ≠ [] → Code.First (fun c => ∃ e ∈ es, e.code = c) (join es).code)
      ∧ ∀ e e' : Error, (∀ x, x ∈ e.members ↔ x ∈ e'.members) → e.code = e'.code :=
  ⟨first_code, fun _ => isFatal_iff, fun _ _ => Wraps.code_eq, fun _ => first_code_join,
    fun _ _ => code_eq_of_members⟩

/-- A misuse, an unknown cause and a stored scan that met a malformed number, joined in two
groupings: neither stops a scan, and the number's code counts. -/
theorem code_regrouped :
    ∃ misuse vague number : Error,
      misuse.code = .internal ∧ vague.code = .unknown
        ∧ (database (utf8 "write") number).code = .malformedNumber
        ∧ (join [join [misuse, vague], database (utf8 "write") number]).code = .malformedNumber
        ∧ (join [database (utf8 "write") number, join [vague, join [misuse]]]).code
            = .malformedNumber
        ∧ ¬(join [join [misuse, vague], database (utf8 "write") number]).isFatal := by
  let misuse : Error := .internal ⟨.fault .unknownHandle, 3⟩
  let vague : Error := ofText (utf8 "busy")
  let number : Error := .lexical ⟨.fault .malformedNumber, ⟨0, 2, 1, 1⟩, 0, utf8 "01"⟩
  let stored : Error := .database (utf8 "write") number
  obtain ⟨first, stops, wraps, joins, regrouped⟩ := codes_read_off_trees
  have kept : stored.code = .malformedNumber := wraps stored number (.database _ _)
  have joined : (join [join [misuse, vague], stored]).code = .malformedNumber := by
    refine (joins [join [misuse, vague], stored] (by simp)).unique ⟨⟨stored, by simp, kept⟩, ?_⟩
    rintro _ ⟨e, member, rfl⟩
    rcases List.mem_pair.1 member with rfl | rfl <;> decide
  have reversed : (join [stored, join [vague, join [misuse]]]).members
      = (join [join [misuse, vague], stored]).members.reverse := rfl
  refine ⟨misuse, vague, number, rfl, rfl, kept, joined, ?_, ?_⟩
  · refine (regrouped _ _ fun x => ?_).trans joined
    rw [reversed, List.mem_reverse]
  · rw [stops, joined]
    decide

end Error

end AsnLexis
