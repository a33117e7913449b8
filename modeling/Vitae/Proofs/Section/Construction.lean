import Vitae.Proofs.Section.Catalog

/-! Which ids a catalog is built from, and what is named when it is not. An id is at fault where it
stands if it is blank, or else if it stands at an earlier position as well. Of several faults the
first one counts, and the home is looked up only when there is none. -/

namespace Vitae.Catalog

/-- What is wrong with the id at a position of a list. -/
inductive FaultAt (ids : List String) (place : Nat) : CatalogFault → Prop
  | blank {id : String} (here : ids[place]? = some id) (empty : Text.blank id = true) : FaultAt ids place .blankId
  | repeated {id : String} (here : ids[place]? = some id) (written : Text.blank id = false)
      (before : id ∈ ids.take place) : FaultAt ids place (.duplicate id)

def Faultless (ids : List String) : Prop :=
  ∀ place fault, ¬ FaultAt ids place fault

/-- The fault of the first position that has one. -/
def FirstFault (ids : List String) (fault : CatalogFault) : Prop :=
  ∃ place, FaultAt ids place fault ∧ ∀ earlier < place, ∀ other, ¬ FaultAt ids earlier other

variable {ids seen rest : List String} {fault : CatalogFault}

theorem FaultAt.unique {place : Nat} {other : CatalogFault} (one : FaultAt ids place fault)
    (two : FaultAt ids place other) : fault = other := by
  cases one with
  | blank here empty =>
    cases two with
    | blank => rfl
    | repeated there written before =>
      obtain rfl := Option.some.inj (here.symm.trans there)
      simp [empty] at written
  | repeated here written before =>
    cases two with
    | blank there empty =>
      obtain rfl := Option.some.inj (here.symm.trans there)
      simp [empty] at written
    | repeated there => rw [Option.some.inj (here.symm.trans there)]

theorem FirstFault.unique {other : CatalogFault} (one : FirstFault ids fault) (two : FirstFault ids other) :
    fault = other := by
  obtain ⟨place, here, clean⟩ := one
  obtain ⟨position, there, sound⟩ := two
  rcases Nat.lt_trichotomy place position with less | rfl | more
  · exact absurd here (sound place less fault)
  · exact here.unique there
  · exact absurd there (clean position more other)

/-- What can be wrong with an id is known from those in front of it. -/
theorem faultAt_next {id : String} :
    FaultAt (seen ++ id :: rest) seen.length fault ↔
      (Text.blank id = true ∧ fault = .blankId) ∨ (Text.blank id = false ∧ id ∈ seen ∧ fault = .duplicate id) := by
  have here : (seen ++ id :: rest)[seen.length]? = some id := by simp
  constructor
  · rintro (⟨there, empty⟩ | ⟨there, written, before⟩)
    · obtain rfl := Option.some.inj (here.symm.trans there)
      exact Or.inl ⟨empty, rfl⟩
    · obtain rfl := Option.some.inj (here.symm.trans there)
      exact Or.inr ⟨written, by simpa using before, rfl⟩
  · rintro (⟨empty, rfl⟩ | ⟨written, before, rfl⟩)
    · exact .blank here empty
    · exact .repeated here written (by simpa using before)

/-- The check goes through the positions one by one: as long as nothing was wrong with the ids it has
seen, what it finds among the others is the first fault of all. -/
theorem firstFault_finds (clean : ∀ place < seen.length, ∀ other, ¬ FaultAt (seen ++ rest) place other) :
    (∀ fault, firstFault seen rest = some fault → FirstFault (seen ++ rest) fault) ∧
    (firstFault seen rest = none → Faultless (seen ++ rest)) := by
  induction rest generalizing seen with
  | nil =>
    refine ⟨fun fault found => (by cases found), fun _ place fault faulty => ?_⟩
    have inside : place < (seen ++ []).length := by
      cases faulty with
      | blank here => exact (List.getElem?_eq_some_iff.mp here).1
      | repeated here => exact (List.getElem?_eq_some_iff.mp here).1
    exact clean place (by simpa using inside) fault faulty
  | cons id rest ih =>
    unfold firstFault
    cases empty : Text.blank id with
    | true =>
      have faulty : FaultAt (seen ++ id :: rest) seen.length .blankId := faultAt_next.mpr (Or.inl ⟨empty, rfl⟩)
      simp only [if_true]
      refine ⟨?_, fun none => (by cases none)⟩
      rintro _ ⟨⟩
      exact ⟨_, faulty, clean⟩
    | false =>
      simp only [Bool.false_eq_true, if_false]
      by_cases repeated : id ∈ seen
      · have faulty : FaultAt (seen ++ id :: rest) seen.length (.duplicate id) :=
          faultAt_next.mpr (Or.inr ⟨empty, repeated, rfl⟩)
        rw [if_pos repeated]
        refine ⟨?_, fun none => (by cases none)⟩
        rintro _ ⟨⟩
        exact ⟨_, faulty, clean⟩
      · rw [if_neg repeated, List.append_cons seen id rest]
        apply ih
        intro place before other faulty
        rw [← List.append_cons] at faulty
        rw [List.length_append, List.length_singleton] at before
        rcases Nat.lt_succ_iff_lt_or_eq.mp before with earlier | rfl
        · exact clean place earlier other faulty
        · rcases faultAt_next.mp faulty with ⟨blank, _⟩ | ⟨_, member, _⟩
          · simp [empty] at blank
          · exact repeated member

theorem firstFault_nil_eq_some_iff : firstFault [] ids = some fault ↔ FirstFault ids fault := by
  have finds := @firstFault_finds [] ids (by simp)
  refine ⟨finds.1 fault, fun first => ?_⟩
  cases found : firstFault [] ids with
  | none =>
    obtain ⟨place, faulty, _⟩ := first
    exact absurd faulty (finds.2 found place fault)
  | some other => rw [(finds.1 other found).unique first]

theorem firstFault_nil_eq_none_iff : firstFault [] ids = none ↔ Faultless ids := by
  have finds := @firstFault_finds [] ids (by simp)
  refine ⟨finds.2, fun sound => ?_⟩
  cases found : firstFault [] ids with
  | none => rfl
  | some fault =>
    obtain ⟨place, faulty, _⟩ := finds.1 fault found
    exact absurd faulty (sound place fault)

theorem build_eq_error_iff {order informational : List String} {home : Option String} :
    build order informational home = .error fault ↔
      (order = [] ∧ fault = .emptyOrder) ∨
      (order ≠ [] ∧ FirstFault (order ++ informational) fault) ∨
      (order ≠ [] ∧ Faultless (order ++ informational) ∧
        ∃ id, home = some id ∧ id ∉ order ++ informational ∧ fault = .unknownHome id) := by
  rw [← firstFault_nil_eq_some_iff, ← firstFault_nil_eq_none_iff]
  cases order with
  | nil => simp [build, eq_comm]
  | cons first others =>
    simp only [build, ne_eq, reduceCtorEq, not_false_eq_true, false_and, true_and, false_or]
    cases firstFault [] (first :: others ++ informational) with
    | some found => simp
    | none =>
      cases home with
      | none => simp
      | some id =>
        by_cases registered : id ∈ first :: others ++ informational
        · simp only [registered, if_true, not_true_eq_false, Option.some.injEq, exists_eq_left', false_and, and_false,
            reduceCtorEq, or_self]
        · simp only [registered, if_false, not_false_eq_true, Option.some.injEq, exists_eq_left', true_and, reduceCtorEq,
            false_or, Except.error.injEq]
          exact eq_comm

/-- What can be wrong with a catalog when none of its ids is blank. -/
theorem build_eq_error_of_named {order informational : List String} {home : Option String}
    (named : ∀ id ∈ order ++ informational, Text.blank id = false)
    (failed : build order informational home = .error fault) :
    (order = [] ∧ fault = .emptyOrder) ∨
    (∃ id, 2 ≤ (order ++ informational).count id ∧ fault = .duplicate id) ∨
    (∃ id, home = some id ∧ id ∉ order ++ informational ∧ fault = .unknownHome id) := by
  rcases build_eq_error_iff.mp failed with empty | ⟨_, place, faulty, _⟩ | ⟨_, _, unknown⟩
  · exact Or.inl empty
  · cases faulty with
    | blank here empty =>
      have written := named _ (List.mem_of_getElem? here)
      simp [empty] at written
    | @repeated id here written before =>
      refine Or.inr (Or.inl ⟨id, ?_, rfl⟩)
      obtain ⟨inside, same⟩ := List.getElem?_eq_some_iff.mp here
      have earlier := List.count_pos_iff.mpr before
      rw [← List.take_append_drop place (order ++ informational), List.drop_eq_getElem_cons inside, same,
        List.count_append, List.count_cons_self]
      omega
  · exact Or.inr (Or.inr unknown)

/-- A catalog is built if some section is ordered, no id is blank or repeated, and the home, if one is
given, is among them. It keeps both lists, and without a home given its home is the first ordered section.
Otherwise the reason is that nothing is ordered, or the first fault of an id by its position, the ordered
ids first, or, if there is no such fault, the home. -/
theorem build_names_first_fault (order informational : List String) (home : Option String) :
    ((∃ catalog, build order informational home = .ok catalog) ↔
      order ≠ [] ∧ (∀ id ∈ order ++ informational, Text.blank id = false) ∧ (order ++ informational).Nodup ∧
      ∀ id, home = some id → id ∈ order ++ informational) ∧
    (∀ catalog, build order informational home = .ok catalog →
      catalog.order = order ∧ catalog.informational = informational ∧ some catalog.home = home.or order.head?) ∧
    (∀ fault, build order informational home = .error fault ↔
      (order = [] ∧ fault = .emptyOrder) ∨
      (order ≠ [] ∧ FirstFault (order ++ informational) fault) ∨
      (order ≠ [] ∧ Faultless (order ++ informational) ∧
        ∃ id, home = some id ∧ id ∉ order ++ informational ∧ fault = .unknownHome id)) := by
  refine ⟨⟨?_, ?_⟩, ?_, fun fault => build_eq_error_iff⟩
  · rintro ⟨catalog, built⟩
    obtain ⟨ordered, named, distinct, registered, _⟩ := build_eq_ok_iff.mp built
    exact ⟨ordered, named, distinct, registered⟩
  · rintro ⟨ordered, named, distinct, registered⟩
    exact ⟨_, build_eq_ok_iff.mpr ⟨ordered, named, distinct, registered, rfl⟩⟩
  · intro catalog built
    obtain ⟨ordered, _, _, _, rfl⟩ := build_eq_ok_iff.mp built
    refine ⟨rfl, rfl, ?_⟩
    cases home with
    | some id => rfl
    | none =>
      cases order with
      | nil => exact absurd rfl ordered
      | cons first others => rfl

/-- The blank id stands before the repeated one. -/
example : build ["overview", "\t"] ["overview"] (some "skills") = .error .blankId := by rfl

end Vitae.Catalog
