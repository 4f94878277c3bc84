import AsnLexis.Path
import AsnLexis.Proofs.OidIri
import Mathlib

/-! Clean paths. What cleaning leaves is the form of some names, the same form gives the same names
back, and a name that is neither empty nor a step stays the last one. -/

namespace AsnLexis

namespace Layout

variable {separator : UInt8}

theorem not_mem_of_split {text part : Bytes} (member : part ∈ split separator text) :
    separator ∉ part := by
  induction text generalizing part with
  | nil =>
      rw [split, List.mem_singleton] at member
      simp [member]
  | cons b rest ih =>
      rw [split] at member
      split_ifs at member with here
      · rcases List.mem_cons.1 member with rfl | later
        · simp
        · exact ih later
      · have apart : separator ≠ b := fun same => here (beq_iff_eq.2 same.symm)
        cases parts : split separator rest with
        | nil => exact absurd parts (split_ne_nil separator rest)
        | cons first others =>
            rw [parts] at member
            rcases List.mem_cons.1 member with rfl | later
            · have free := ih (parts ▸ List.mem_cons_self : first ∈ split separator rest)
              simp [apart, free]
            · exact ih (parts ▸ List.mem_cons_of_mem first later)

theorem join_cons (name : Bytes) {names : List Bytes} (some : names ≠ []) :
    join [separator] (name :: names) = name ++ separator :: join [separator] names := by
  cases names with
  | nil => exact absurd rfl some
  | cons other rest =>
      rw [join, List.append_assoc, List.singleton_append]
      exact List.cons_ne_nil other rest

theorem split_join {names : List Bytes} (free : ∀ name ∈ names, separator ∉ name)
    (some : names ≠ []) : split separator (join [separator] names) = names := by
  induction names with
  | nil => exact absurd rfl some
  | cons name names ih =>
      have own := split_of_not_mem (free name List.mem_cons_self)
      by_cases last : names = []
      · rw [last]
        exact own
      · have others := ih (fun other member => free other (List.mem_cons_of_mem name member)) last
        rw [join_cons name last, split_append, own, others]
        rfl

theorem join_concat {names : List Bytes} (some : names ≠ []) (name : Bytes) :
    join [separator] (names ++ [name]) = join [separator] names ++ separator :: name := by
  induction names with
  | nil => exact absurd rfl some
  | cons first rest ih =>
      rw [List.cons_append, join_cons first (by simp)]
      by_cases last : rest = []
      · rw [last]
        rfl
      · rw [ih last, join_cons first last, List.append_assoc, List.cons_append]

end Layout

namespace Path

structure Ordinary (name : Bytes) : Prop where
  filled : name ≠ []
  notHere : name ≠ here
  notAbove : name ≠ above
  whole : solidus ∉ name

/-- Names that cannot be shortened, the last of them first. Steps up come before all other names of a
path, and only if it is relative. -/
inductive Settled (absolute : Bool) : List Bytes → Prop
  | nil : Settled absolute []
  | down {name : Bytes} {names : List Bytes} (ordinary : Ordinary name)
      (settled : Settled absolute names) : Settled absolute (name :: names)
  | up {names : List Bytes} (relative : absolute = false) (steps : ∀ name ∈ names, name = above) :
      Settled absolute (above :: names)

namespace Settled

variable {absolute : Bool} {name : Bytes} {names : List Bytes}

theorem of_steps (relative : absolute = false) (steps : ∀ name ∈ names, name = above) :
    Settled absolute names := by
  cases names with
  | nil => exact .nil
  | cons name names =>
      rw [steps name List.mem_cons_self]
      exact .up relative fun other member => steps other (List.mem_cons_of_mem name member)

theorem tail (settled : Settled absolute (name :: names)) : Settled absolute names := by
  cases settled with
  | down _ settled => exact settled
  | up relative steps => exact .of_steps relative steps

theorem right {front : List Bytes} (settled : Settled absolute (front ++ names)) :
    Settled absolute names := by
  induction front with
  | nil => exact settled
  | cons name front ih => exact ih settled.tail

theorem mem (settled : Settled absolute names) (member : name ∈ names) :
    name ≠ [] ∧ solidus ∉ name := by
  induction settled with
  | nil => cases member
  | down ordinary _ ih =>
      rcases List.mem_cons.1 member with rfl | later
      · exact ⟨ordinary.filled, ordinary.whole⟩
      · exact ih later
  | up _ steps =>
      have same : name = above := (List.mem_cons.1 member).elim id (steps name)
      rw [same]
      decide

theorem step (settled : Settled absolute names) (whole : solidus ∉ name) :
    Settled absolute (step absolute names name) := by
  -- An empty name and a point change nothing, a step up takes the last name away or is kept, and any
  -- other name is put in front.
  by_cases idle : name = [] ∨ name = here
  · have same : Path.step absolute names name = names := by
      rcases idle with rfl | rfl <;> simp [Path.step.eq_def]
    rw [same]
    exact settled
  · obtain ⟨filled, notHere⟩ := not_or.1 idle
    by_cases up : name = above
    · rw [up, Path.step.eq_def, if_neg (by decide), if_pos (by decide)]
      cases settled with
      | nil =>
          cases absolute with
          | true => exact .nil
          | false => exact .up rfl (by simp)
      | down ordinary settled => simpa [ordinary.notAbove] using settled
      | up relative steps =>
          simp only [beq_self_eq_true, if_true]
          exact .up relative fun name member => (List.mem_cons.1 member).elim id (steps name)
    · have taken : Path.step absolute names name = name :: names := by
        simp [Path.step.eq_def, filled, notHere, up]
      rw [taken]
      exact .down ⟨filled, notHere, up, whole⟩ settled

theorem step_eq (settled : Settled absolute (name :: names)) :
    Path.step absolute names name = name :: names := by
  cases settled with
  | down ordinary _ =>
      simp [Path.step, ordinary.filled, ordinary.notHere, ordinary.notAbove]
  | up relative steps =>
      have up : above ≠ [] ∧ above ≠ here := by decide
      cases names with
      | nil => simp [Path.step, up, relative]
      | cons last rest =>
          have same := steps last List.mem_cons_self
          simp [Path.step, up, same]

theorem foldl_step (settled : Settled absolute names) {parts : List Bytes}
    (whole : ∀ part ∈ parts, solidus ∉ part) :
    Settled absolute (parts.foldl (Path.step absolute) names) := by
  induction parts generalizing names with
  | nil => exact settled
  | cons part parts ih =>
      have first := settled.step (whole part List.mem_cons_self)
      exact ih first fun other member => whole other (List.mem_cons_of_mem part member)

theorem foldl_reverse (settled : Settled absolute names) :
    names.reverse.foldl (Path.step absolute) [] = names := by
  induction names with
  | nil => rfl
  | cons name names ih =>
      rw [List.reverse_cons, List.foldl_append, ih settled.tail, List.foldl_cons, List.foldl_nil,
        settled.step_eq]

end Settled

theorem settled_names (path : Bytes) : Settled (isAbsolute path) (names path).reverse := by
  rw [names, List.reverse_reverse]
  exact Settled.nil.foldl_step fun part member => Layout.not_mem_of_split member

def form (absolute : Bool) (names : List Bytes) : Bytes :=
  let body := Layout.join root names
  if absolute then solidus :: body else if body.isEmpty then here else body

theorem clean_eq_form (path : Bytes) : clean path = form (isAbsolute path) (names path) := rfl

section Form

variable {absolute : Bool} {ns : List Bytes}

theorem join_ne_nil {name : Bytes} {rest : List Bytes} (filled : name ≠ []) :
    Layout.join root (name :: rest) ≠ [] := by
  cases rest with
  | nil => exact filled
  | cons other rest => simp [Layout.join, filled]

theorem split_form (settled : Settled absolute ns.reverse) (some : ns ≠ []) :
    Layout.split solidus (form absolute ns) = (if absolute then [[]] else []) ++ ns := by
  have free : ∀ name ∈ ns, solidus ∉ name := fun name member =>
    (settled.mem (List.mem_reverse.2 member)).2
  have parts : Layout.split solidus (Layout.join root ns) = ns := Layout.split_join free some
  obtain ⟨name, rest, rfl⟩ := List.exists_cons_of_ne_nil some
  have body : Layout.join root (name :: rest) ≠ [] :=
    join_ne_nil (settled.mem (List.mem_reverse.2 List.mem_cons_self)).1
  cases absolute with
  | true => simp [form, Layout.split, parts]
  | false => simp [form, body, parts]

theorem isAbsolute_form (settled : Settled absolute ns.reverse) :
    isAbsolute (form absolute ns) = absolute := by
  cases absolute with
  | true => rfl
  | false =>
      cases ns with
      | nil => rfl
      | cons name rest =>
          obtain ⟨filled, free⟩ := settled.mem (List.mem_reverse.2 List.mem_cons_self)
          obtain ⟨b, name, rfl⟩ := List.exists_cons_of_ne_nil filled
          have apart : b ≠ solidus := fun same => free (same ▸ List.mem_cons_self)
          have body : Layout.join root ((b :: name) :: rest) ≠ [] := join_ne_nil filled
          have first : (Layout.join root ((b :: name) :: rest)).head? = some b := by
            cases rest <;> rfl
          simp [form, body, isAbsolute, first, apart]

theorem names_form (settled : Settled absolute ns.reverse) : names (form absolute ns) = ns := by
  have folded := settled.foldl_reverse
  rw [List.reverse_reverse] at folded
  rw [names, isAbsolute_form settled]
  by_cases none : ns = []
  · rw [none]
    cases absolute <;> decide
  · rw [split_form settled none, List.foldl_append]
    have skipped : (if absolute then [[]] else []).foldl (Path.step absolute) [] = [] := by
      cases absolute <;> rfl
    rw [skipped, folded, List.reverse_reverse]

theorem clean_form (settled : Settled absolute ns.reverse) :
    clean (form absolute ns) = form absolute ns := by
  rw [clean_eq_form, isAbsolute_form settled, names_form settled]

end Form

theorem clean_clean (path : Bytes) : clean (clean path) = clean path :=
  clean_form (settled_names path)

theorem names_clean (path : Bytes) : names (clean path) = names path :=
  names_form (settled_names path)

theorem isAbsolute_clean (path : Bytes) : isAbsolute (clean path) = isAbsolute path :=
  isAbsolute_form (settled_names path)

theorem clean_ne_nil (path : Bytes) : clean path ≠ [] := by
  rw [clean]
  split_ifs with absolute none
  · exact List.cons_ne_nil _ _
  · decide
  · simpa using none

theorem enter_eq {place name : Bytes} (cleaned : clean place = place) (whole : solidus ∉ name) :
    isAbsolute (enter place name) = isAbsolute place ∧
      names (enter place name) = (step (isAbsolute place) (names place).reverse name).reverse := by
  have filled : place ≠ [] := cleaned ▸ clean_ne_nil place
  have first : isAbsolute (place ++ solidus :: name) = isAbsolute place := by
    obtain ⟨b, rest, rfl⟩ := List.exists_cons_of_ne_nil filled
    rfl
  refine ⟨(isAbsolute_clean _).trans first, (names_clean _).trans ?_⟩
  rw [names, first, Layout.split_append, Layout.split_of_not_mem whole, List.foldl_append, names,
    List.reverse_reverse]
  rfl

theorem clean_of_mem_ancestors {path directory : Bytes} (member : directory ∈ ancestors path) :
    clean directory = directory := by
  obtain ⟨n, -, rfl⟩ := List.mem_map.1 member
  have front : Settled (isAbsolute path) ((names path).take n).reverse := by
    have all := settled_names path
    rw [← List.take_append_drop n (names path), List.reverse_append] at all
    exact all.right
  exact clean_form front

def Ends (path name : Bytes) : Prop := ∃ front, Layout.split solidus path = front ++ [name]

section Ends

variable {path name other : Bytes}

theorem Ends.unique (first : Ends path name) (second : Ends path other) : name = other := by
  obtain ⟨front, split⟩ := first
  obtain ⟨front', split'⟩ := second
  exact (List.append_inj' (split.symm.trans split') rfl).2 |> List.singleton_inj.1

theorem ends_self (whole : solidus ∉ name) : Ends name name :=
  ⟨[], Layout.split_of_not_mem whole⟩

theorem Ends.ne_nil (ends : Ends path name) (ordinary : Ordinary name) : path ≠ [] := by
  rintro rfl
  exact ordinary.filled ((ends_self (by simp)).unique ends).symm

theorem Ends.behind (ends : Ends path name) (directory : Bytes) :
    Ends (directory ++ solidus :: path) name := by
  obtain ⟨front, split⟩ := ends
  exact ⟨Layout.split solidus directory ++ front, by
    rw [Layout.split_append, split, List.append_assoc]⟩

theorem Ends.clean (ends : Ends path name) (ordinary : Ordinary name) :
    Ends (Path.clean path) name := by
  obtain ⟨front, split⟩ := ends
  have last : names path = (front.foldl (Path.step (isAbsolute path)) []).reverse ++ [name] := by
    rw [names, split, List.foldl_append, List.foldl_cons, List.foldl_nil, Path.step.eq_def]
    simp [ordinary.filled, ordinary.notHere, ordinary.notAbove]
  have parts := split_form (settled_names path) (by simp [last])
  rw [← clean_eq_form, last, ← List.append_assoc] at parts
  exact ⟨_, parts⟩

theorem join_eq_clean (filled : path ≠ []) (front : List Bytes) :
    Path.join (front ++ [path])
      = Path.clean (Layout.join root (front.filter (!·.isEmpty) ++ [path])) := by
  have parts : (front ++ [path]).filter (!·.isEmpty) = front.filter (!·.isEmpty) ++ [path] := by
    simp [List.filter_append, filled]
  rw [Path.join, parts]
  split
  next none => simp at none
  next => rfl

theorem clean_join (filled : path ≠ []) (front : List Bytes) :
    Path.clean (Path.join (front ++ [path])) = Path.join (front ++ [path]) := by
  rw [join_eq_clean filled, clean_clean]

theorem Ends.join (ends : Ends path name) (ordinary : Ordinary name) (front : List Bytes) :
    Ends (Path.join (front ++ [path])) name := by
  rw [join_eq_clean (ends.ne_nil ordinary)]
  refine Ends.clean ?_ ordinary
  by_cases alone : front.filter (!·.isEmpty) = []
  · rw [alone]
    exact ends
  · rw [root, Layout.join_concat alone]
    exact ends.behind _

end Ends

end Path

end AsnLexis
