import Mathlib.Algebra.Group.Nat.Defs
import Vitae.Proofs.Section.Ring
import Vitae.Section.Catalog

/-! Looking sections up in a catalog and stepping around its ordered ones. A catalog that was
built is valid, so positions and sections of its order determine each other, and its steps are those
of a ring. -/

namespace Vitae

namespace Catalog

variable (catalog : Catalog)

theorem contains_iff {id : String} : catalog.contains id = true ↔ id ∈ catalog.sections :=
  List.contains_iff_mem

theorem mem_sections_of_mem_order {id : String} (member : id ∈ catalog.order) : id ∈ catalog.sections :=
  List.mem_append_left _ member

theorem position?_eq_none_iff {id : String} : catalog.position? id = none ↔ id ∉ catalog.order :=
  List.idxOf?_eq_none_iff

theorem position?_lt {id : String} {index : Nat} (found : catalog.position? id = some index) :
    index < catalog.order.length :=
  (List.idxOf?_eq_some_iff.mp found).1

theorem mem_order_of_position? {id : String} {index : Nat} (found : catalog.position? id = some index) :
    id ∈ catalog.order :=
  List.isSome_idxOf?.mp (Option.isSome_of_eq_some found)

theorem sectionAt?_of_lt {index : Nat} (inside : index < catalog.order.length) :
    ∃ id ∈ catalog.order, catalog.sectionAt? index = some id :=
  ⟨catalog.order[index], List.getElem_mem inside, List.getElem?_eq_getElem inside⟩

/-- In an order without repetitions a section is at its position and nowhere else. -/
theorem position?_eq_some_iff (distinct : catalog.sections.Nodup) {id : String} {index : Nat} :
    catalog.position? id = some index ↔ catalog.sectionAt? index = some id := by
  have order : catalog.order.Nodup := distinct.sublist (List.sublist_append_left _ _)
  rw [position?, List.idxOf?_eq_some_iff, sectionAt?, List.getElem?_eq_some_iff]
  refine ⟨fun ⟨inside, here, _⟩ => ⟨inside, here⟩, fun ⟨inside, here⟩ => ⟨inside, here, fun earlier before same => ?_⟩⟩
  have twice : catalog.order[earlier]? = catalog.order[index]? := by
    rw [List.getElem?_eq_getElem (by omega), List.getElem?_eq_getElem inside, same, here]
  have := (List.getElem?_inj (by omega) order).mp twice
  omega

theorem step?_inside {index : Nat} (fits : catalog.order.length ≤ 2 ^ 63)
    (inside : index < catalog.order.length) (direction : Direction) :
    ∃ next, catalog.step? index direction = some next ∧ next < catalog.order.length ∧
      (next : Int) = (index + direction.stride) % catalog.order.length :=
  Ring.step?_inside fits inside direction

/-- Ids pass the check when none is blank, none is repeated and none was seen before. -/
theorem firstFault_eq_none_iff {seen ids : List String} :
    firstFault seen ids = none ↔
      (∀ id ∈ ids, Text.blank id = false) ∧ ids.Nodup ∧ ∀ id ∈ ids, id ∉ seen := by
  induction ids generalizing seen with
  | nil => simp [firstFault]
  | cons id rest ih =>
    unfold firstFault
    cases blank : Text.blank id with
    | true => simp [blank]
    | false =>
      by_cases repeated : id ∈ seen
      · simp [repeated]
      · simp only [Bool.false_eq_true, if_false, repeated, ih, List.mem_append, List.mem_singleton]
        grind

/-- The ids a catalog can be built from, and the catalog that comes of them. -/
theorem build_eq_ok_iff {catalog : Catalog} {order informational : List String} {home : Option String} :
    build order informational home = .ok catalog ↔
      order ≠ [] ∧ (∀ id ∈ order ++ informational, Text.blank id = false) ∧ (order ++ informational).Nodup ∧
      (∀ id, home = some id → id ∈ order ++ informational) ∧
      catalog = { order, informational, home := home.getD (order.headD "") } := by
  cases order with
  | nil => simp [build]
  | cons first rest =>
    have sound : firstFault [] (first :: rest ++ informational) = none ↔
        (∀ id ∈ first :: rest ++ informational, Text.blank id = false) ∧ (first :: rest ++ informational).Nodup := by
      rw [firstFault_eq_none_iff]
      exact and_congr_right fun _ => and_iff_left fun _ _ => List.not_mem_nil
    simp only [build, ← and_assoc (b := List.Nodup _), ← sound]
    cases firstFault [] (first :: rest ++ informational) with
    | some fault => simp
    | none =>
      cases home with
      | none => simp [eq_comm]
      | some id =>
        simp only [Option.some.injEq, forall_eq']
        by_cases registered : id ∈ first :: rest ++ informational
        · simp only [registered, if_true, ne_eq, reduceCtorEq, not_false_eq_true, Except.ok.injEq, true_and]
          exact eq_comm
        · simp only [registered, if_false, reduceCtorEq, false_and, and_false]

/-- With a home that is asked for, the ids decide first, and then whether it is one of them. -/
theorem build_some {order informational : List String} (ordered : order ≠ [])
    (clean : firstFault [] (order ++ informational) = none) (id : String) :
    build order informational (some id) =
      if id ∈ order ++ informational then .ok { order, informational, home := id } else .error (.unknownHome id) := by
  cases order with
  | nil => exact absurd rfl ordered
  | cons first rest => simp only [build, clean]

/-- Ids that no catalog can be built from are refused whatever home is asked for. -/
theorem build_of_faulty {order informational : List String}
    (faulty : order = [] ∨ firstFault [] (order ++ informational) ≠ none) :
    ∃ fault, ∀ home, build order informational home = .error fault := by
  cases order with
  | nil => exact ⟨.emptyOrder, fun _ => rfl⟩
  | cons first rest =>
    obtain ⟨fault, found⟩ := Option.ne_none_iff_exists'.mp (faulty.resolve_left (by simp))
    refine ⟨fault, fun home => ?_⟩
    simp only [build, found]

theorem valid_of_build {catalog : Catalog} {order informational : List String} {home : Option String}
    (built : build order informational home = .ok catalog) : catalog.Valid := by
  obtain ⟨ordered, named, distinct, registered, rfl⟩ := build_eq_ok_iff.mp built
  refine ⟨ordered, named, distinct, ?_⟩
  cases home with
  | none =>
    cases order with
    | nil => exact absurd rfl ordered
    | cons first rest => exact List.mem_append_left _ List.mem_cons_self
  | some id => exact registered id rfl

/-- Two ordered sections and one beside them, to look at single visits with. -/
def sample : Catalog :=
  { order := ["overview", "skills"], informational := ["changelog"], home := "overview" }

/-- In a built catalog that fits into memory a section is found at the position that leads to it, and every
id it was built from is registered once. Steps are those of integers modulo the number of ordered sections, from whatever
word they start, and of all that is computed on the way only the sum after the largest word is none. Inside
the order the two directions are inverse to each other, and a walk leads to where its steps count to. -/
theorem order_is_ring {order informational : List String} {home : Option String} {catalog : Catalog}
    (built : build order informational home = .ok catalog) {size : Nat} (counted : catalog.order.length = size)
    (fits : size < 2 ^ 63) :
    (∀ id place, catalog.position? id = some place ↔ catalog.sectionAt? place = some id) ∧
    (∀ id, (catalog.contains id = true ↔ id ∈ catalog.sections) ∧
      catalog.sections.count id = if id ∈ order ++ informational then 1 else 0) ∧
    (∀ index < 2 ^ 64,
      (∃ next, catalog.step? index .previous = some next ∧ next < size ∧ (next : Int) = (index - 1) % size) ∧
      (index < 2 ^ 64 - 1 →
        ∃ next, catalog.step? index .next = some next ∧ next < size ∧ (next : Int) = (index + 1) % size) ∧
      ∀ direction,
        (catalog.step? index direction = none ↔ ∃ value ∈ Ring.values size index direction, ¬ Word.Holds value) ∧
        ((∃ value ∈ Ring.values size index direction, ¬ Word.Holds value) ↔ direction = .next ∧ index = 2 ^ 64 - 1) ∧
        ∀ next, catalog.step? index direction = some next →
          (Ring.values size index direction).getLast? = some (next : Int)) ∧
    (∃ turn : Equiv.Perm (Fin size), ∀ place : Fin size,
      catalog.step? place .next = some (turn place).val ∧ catalog.step? place .previous = some (turn.symm place).val) ∧
    ∀ index < size, ∀ steps : List Direction, ∃ last, steps.foldlM catalog.step? index = some last ∧
      (last : Int) = (index + steps.count .next - steps.count .previous) % size := by
  subst counted
  have valid := valid_of_build built
  have positive : 0 < catalog.order.length := List.length_pos_iff.mpr valid.ordered
  have room : catalog.order.length ≤ 2 ^ 63 := Nat.le_of_lt fits
  have limit := Word.bound_eq
  have listed : catalog.sections = order ++ informational := by
    obtain ⟨_, _, _, _, rfl⟩ := build_eq_ok_iff.mp built
    rfl
  refine ⟨fun id place => catalog.position?_eq_some_iff valid.distinct, fun id => ⟨catalog.contains_iff, ?_⟩,
    fun index word => ⟨?_, fun below => ?_, fun direction => ⟨?_, ?_, fun next stepped => ?_⟩⟩,
    ⟨Ring.turn room, fun place => ⟨?_, ?_⟩⟩, fun index inside steps => ?_⟩
  · rw [← listed, valid.distinct.count]
  · obtain ⟨next, stepped, place⟩ := Ring.step?_eq positive room index .previous nofun
    exact ⟨next, stepped, Ring.step?_lt positive stepped, place⟩
  · obtain ⟨next, stepped, place⟩ := Ring.step?_eq positive room index .next fun _ => by omega
    exact ⟨next, stepped, Ring.step?_lt positive stepped, place⟩
  · rw [Ring.exists_not_holds_iff positive room]
    exact Ring.step?_eq_none_iff positive room
  · rw [Ring.exists_not_holds_iff positive room]
    exact and_congr_right fun _ => by omega
  · exact Ring.getLast?_values positive stepped
  · exact Ring.step?_eq_neighbour room place .next
  · exact Ring.step?_eq_neighbour room place .previous
  · obtain ⟨last, walked, _, total⟩ := Ring.foldlM_step? room steps inside
    refine ⟨last, walked, ?_⟩
    rw [total, Direction.distance_eq, Int.add_sub_assoc]

/-- From the largest word, and from the last section of an order. -/
theorem order_is_ring_of_three :
    let catalog : Catalog := { order := ["overview", "timeline", "skills"], informational := ["changelog"], home := "changelog" }
    build ["overview", "timeline", "skills"] ["changelog"] (some "changelog") = .ok catalog ∧
      (∃ next, catalog.step? (2 ^ 64 - 1) .previous = some next ∧ (next : Int) = ((2 ^ 64 - 1 : Nat) - 1) % 3) ∧
      (catalog.step? (2 ^ 64 - 1) .next = none ↔
        ∃ value ∈ Ring.values 3 (2 ^ 64 - 1) .next, ¬ Word.Holds value) ∧
      ∃ last, [.next, .previous, .previous, .next, .next].foldlM catalog.step? 2 = some last ∧ (last : Int) = 3 % 3 := by
  intro catalog
  have built : build ["overview", "timeline", "skills"] ["changelog"] (some "changelog") = .ok catalog := rfl
  obtain ⟨_, _, words, _, walks⟩ := order_is_ring built (show catalog.order.length = 3 from rfl) (by decide)
  obtain ⟨⟨next, stepped, _, place⟩, _, overflow⟩ := words (2 ^ 64 - 1) (by decide)
  exact ⟨built, ⟨next, stepped, place⟩, (overflow .next).1, walks 2 (by decide) _⟩

end Catalog

end Vitae
