import Mathlib.Algebra.Group.Nat.Defs
import Mathlib.Logic.Equiv.Defs
import Vitae.Section.Ring

/-! Steps on a ring as integer arithmetic modulo its size. A step is computed on words, and that it
stays within them is part of what is proved here; where a sequence of steps leads is then a matter of
counting them. -/

namespace Vitae

/-- The integers that a word can hold. -/
def Word.Holds (value : Int) : Prop := 0 ≤ value ∧ value < Word.bound

theorem Word.bound_eq : Word.bound = 2 ^ 64 := rfl

/-- The step of a direction, on positions without end. -/
def Direction.stride : Direction → Int
  | .next => 1
  | .previous => -1

/-- How far a sequence of steps leads. -/
def Direction.distance : List Direction → Int
  | [] => 0
  | direction :: rest => direction.stride + distance rest

theorem Direction.distance_eq (steps : List Direction) :
    distance steps = steps.count .next - steps.count .previous := by
  induction steps with
  | nil => rfl
  | cons direction rest ih =>
    rw [distance, ih]
    cases direction with
    | next => simp [stride]; omega
    | previous => simp [stride]; omega

theorem Direction.distance_append (steps more : List Direction) :
    distance (steps ++ more) = distance steps + distance more := by
  simp only [distance_eq, List.count_append]
  omega

namespace Ring

/-- What a step computes on its way, in exact arithmetic. The last value is where it ends. -/
def values (size index : Nat) : Direction → List Int
  | .next => [index + 1, (index + 1) % size]
  | .previous => [index % size, index % size + size, index % size + size - 1, (index % size + size - 1) % size]

section Step
variable {size index : Nat} {direction : Direction}

/-- On a ring with no more than half as many positions as there are words, a step is one of integer
arithmetic. From a position off the ring stepping on needs a word for the sum, stepping back none. -/
theorem step?_eq (positive : 0 < size) (fits : size ≤ 2 ^ 63) (index : Nat) (direction : Direction)
    (room : direction = .next → index + 1 < Word.bound) :
    ∃ next : Nat, Ring.step? size index direction = some next ∧ (next : Int) = (index + direction.stride) % size := by
  cases direction with
  | next =>
    have sum : Word.add? index 1 = some (index + 1) := Word.add?_eq_some_iff.mpr ⟨rfl, room rfl⟩
    exact ⟨(index + 1) % size, by simp [Ring.step?, sum], by simp [Direction.stride]⟩
  | previous =>
    have place : index % size < size := Nat.mod_lt _ positive
    have sum : Word.add? (index % size) size = some (index % size + size) :=
      Word.add?_eq_some_iff.mpr ⟨rfl, by unfold Word.bound UInt64.size; omega⟩
    have back : ((index % size + size - 1 : Nat) : Int) = index % size + -1 + size := by omega
    refine ⟨(index % size + size - 1) % size, by simp [Ring.step?, sum], ?_⟩
    rw [Int.natCast_emod, back, Int.add_emod_right, Int.emod_add_emod]
    rfl

theorem step?_eq_none_iff (positive : 0 < size) (fits : size ≤ 2 ^ 63) :
    step? size index direction = none ↔ direction = .next ∧ Word.bound ≤ index + 1 := by
  constructor
  · intro stuck
    by_contra room
    obtain ⟨next, stepped, _⟩ := step?_eq positive fits index direction fun onward =>
      Nat.lt_of_not_le fun outside => room ⟨onward, outside⟩
    rw [stuck] at stepped
    cases stepped
  · rintro ⟨rfl, outside⟩
    rw [step?, Word.add?_eq_none_iff.mpr outside]
    rfl

theorem step?_lt (positive : 0 < size) {next : Nat} (stepped : step? size index direction = some next) : next < size := by
  cases direction with
  | next =>
    obtain ⟨sum, _, rfl⟩ := Option.map_eq_some_iff.mp stepped
    exact Nat.mod_lt _ positive
  | previous =>
    obtain ⟨sum, _, rfl⟩ := Option.map_eq_some_iff.mp stepped
    exact Nat.mod_lt _ positive

theorem step?_inside (fits : size ≤ 2 ^ 63) (inside : index < size) (direction : Direction) :
    ∃ next, Ring.step? size index direction = some next ∧ next < size ∧
      (next : Int) = (index + direction.stride) % size := by
  have positive : 0 < size := by omega
  have room : direction = .next → index + 1 < Word.bound := fun _ => by unfold Word.bound UInt64.size; omega
  obtain ⟨next, stepped, place⟩ := Ring.step?_eq positive fits index direction room
  exact ⟨next, stepped, step?_lt positive stepped, place⟩

theorem getLast?_values (positive : 0 < size) {next : Nat} (stepped : step? size index direction = some next) :
    (values size index direction).getLast? = some (next : Int) := by
  cases direction with
  | next =>
    obtain ⟨sum, added, rfl⟩ := Option.map_eq_some_iff.mp stepped
    obtain ⟨rfl, _⟩ := Word.add?_eq_some_iff.mp added
    simp [values]
  | previous =>
    obtain ⟨sum, added, rfl⟩ := Option.map_eq_some_iff.mp stepped
    obtain ⟨rfl, _⟩ := Word.add?_eq_some_iff.mp added
    have back : ((index % size + size - 1 : Nat) : Int) = index % size + size - 1 := by omega
    simp [values, back]

/-- Nothing that a step computes leaves the words but the sum after the largest of them. -/
theorem exists_not_holds_iff (positive : 0 < size) (fits : size ≤ 2 ^ 63) :
    (∃ value ∈ values size index direction, ¬ Word.Holds value) ↔ direction = .next ∧ Word.bound ≤ index + 1 := by
  have below (number : Int) : 0 ≤ number % size ∧ number % size < size :=
    ⟨Int.emod_nonneg _ (by omega), Int.emod_lt_of_pos _ (by omega)⟩
  have limit := Word.bound_eq
  cases direction with
  | next =>
    have last := below (index + 1)
    simp only [values, List.mem_cons, List.not_mem_nil, or_false, exists_eq_or_imp, exists_eq_left, Word.Holds, true_and]
    omega
  | previous =>
    have first := below index
    have last := below (index % size + size - 1)
    simp only [values, List.mem_cons, List.not_mem_nil, or_false, exists_eq_or_imp, exists_eq_left, Word.Holds,
      reduceCtorEq, false_and, iff_false]
    omega

end Step

section Round
variable {size : Nat}

/-- A stride back from where a stride led is where it began. -/
theorem emod_back {place next stride : Int} (inside : 0 ≤ place ∧ place < size) (moved : next = (place + stride) % size) :
    (next + -stride) % size = place := by
  rw [moved, Int.emod_add_emod, Int.add_neg_cancel_right]
  exact Int.emod_eq_of_lt inside.1 inside.2

/-- Inside the ring a step back undoes a step on, and the other way round. -/
theorem step?_next_iff (fits : size ≤ 2 ^ 63) (here there : Fin size) :
    step? size here .next = some there.val ↔ step? size there .previous = some here.val := by
  obtain ⟨next, onward, _, ahead⟩ := step?_inside fits here.isLt .next
  obtain ⟨previous, backward, _, behind⟩ := step?_inside fits there.isLt .previous
  rw [onward, backward, Option.some.injEq, Option.some.injEq]
  constructor
  · rintro rfl
    have undone := emod_back ⟨by omega, by omega⟩ ahead
    exact Int.ofNat.inj (behind.trans undone)
  · rintro rfl
    have undone := emod_back ⟨by omega, by omega⟩ behind
    exact Int.ofNat.inj (ahead.trans undone)

theorem isSome_step? (fits : size ≤ 2 ^ 63) (here : Fin size) (direction : Direction) :
    (step? size here direction).isSome := by
  obtain ⟨next, stepped, _⟩ := step?_inside fits here.isLt direction
  exact Option.isSome_of_eq_some stepped

/-- The position that a step leads to from inside the ring. -/
def neighbour (fits : size ≤ 2 ^ 63) (here : Fin size) (direction : Direction) : Fin size where
  val := (step? size here direction).get (isSome_step? fits here direction)
  isLt := step?_lt here.pos (Option.some_get _).symm

theorem step?_eq_neighbour (fits : size ≤ 2 ^ 63) (here : Fin size) (direction : Direction) :
    step? size here direction = some (neighbour fits here direction).val :=
  (Option.some_get _).symm

/-- One step on, for all positions at once. -/
def turn (fits : size ≤ 2 ^ 63) : Equiv.Perm (Fin size) where
  toFun here := neighbour fits here .next
  invFun here := neighbour fits here .previous
  left_inv here := by
    have back := (step?_next_iff fits here _).mp (step?_eq_neighbour fits here .next)
    rw [step?_eq_neighbour fits] at back
    exact Fin.ext (Option.some.inj back)
  right_inv here := by
    have onward := (step?_next_iff fits _ here).mpr (step?_eq_neighbour fits here .previous)
    rw [step?_eq_neighbour fits] at onward
    exact Fin.ext (Option.some.inj onward)

/-- Steps taken one after another lead to where counting them leads. -/
theorem foldlM_step? (fits : size ≤ 2 ^ 63) (steps : List Direction) {index : Nat} (inside : index < size) :
    ∃ last, steps.foldlM (step? size) index = some last ∧ last < size ∧
      (last : Int) = (index + Direction.distance steps) % size := by
  induction steps generalizing index with
  | nil =>
    refine ⟨index, rfl, inside, ?_⟩
    rw [Direction.distance, Int.add_zero, Int.emod_eq_of_lt (by omega) (by omega)]
  | cons direction rest ih =>
    obtain ⟨next, stepped, within, place⟩ := step?_inside fits inside direction
    obtain ⟨last, walked, ended, total⟩ := ih within
    refine ⟨last, ?_, ended, ?_⟩
    · rw [List.foldlM_cons, stepped]
      exact walked
    · rw [total, place, Int.emod_add_emod, Int.add_assoc]
      rfl

end Round

end Ring

end Vitae
