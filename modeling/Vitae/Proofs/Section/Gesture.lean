import Vitae.Proofs.Number.Comparison
import Vitae.Proofs.Settings.Checks
import Vitae.Section.Gesture

/-! When a touch is a swipe. The rule asks that it travel more sideways than along the page, and further
than the threshold. The tests ask whether either of this fails, which is the same as long as both
distances are numbers, and they are for a touch between two points of the page. -/

namespace Vitae
open Number

/-- The direction of a touch by the rule, from how far it travelled sideways and along the page. -/
def swipe? (threshold dx dy : Float) : Option Direction :=
  if dy.abs < dx.abs ∧ threshold < dx.abs ∧ 0.0 < dx then some .next
  else if dy.abs < dx.abs ∧ threshold < dx.abs ∧ dx < 0.0 then some .previous
  else none

section Swipe
variable {threshold dx dy : Float}

theorem swipe?_of_short (short : ¬ (dy.abs < dx.abs ∧ threshold < dx.abs)) : swipe? threshold dx dy = none := by
  have left : ¬ (dy.abs < dx.abs ∧ threshold < dx.abs ∧ 0.0 < dx) := fun all => short ⟨all.1, all.2.1⟩
  have right : ¬ (dy.abs < dx.abs ∧ threshold < dx.abs ∧ dx < 0.0) := fun all => short ⟨all.1, all.2.1⟩
  rw [swipe?, if_neg left, if_neg right]

theorem swipe?_of_isNaN (missing : dx.isNaN = true ∨ dy.isNaN = true) : swipe? threshold dx dy = none := by
  apply swipe?_of_short
  rintro ⟨sideways, _⟩
  obtain ⟨along, across⟩ := isNaN_of_lt sideways
  rw [isNaN_abs] at along across
  rcases missing with missing | missing
  · exact Bool.false_ne_true (across.symm.trans missing)
  · exact Bool.false_ne_true (along.symm.trans missing)

/-- A distance that exceeds a threshold is not zero, so it has a direction. -/
theorem neg_of_far (usable : Settings.IsDistance threshold) (far : threshold < dx.abs) (left : ¬ 0.0 < dx) :
    dx < 0.0 := by
  have number : dx.isNaN = false := by
    rw [← isNaN_abs]
    exact (isNaN_of_lt far).2
  rcases sign_cases number with right | still | toward
  · exact right
  · rw [still] at far
    exact absurd usable.2 (not_le_of_lt far)
  · exact absurd toward left

theorem swipe?_of_far (usable : Settings.IsDistance threshold) (sideways : dy.abs < dx.abs)
    (far : threshold < dx.abs) : swipe? threshold dx dy = some (if 0.0 < dx then .next else .previous) := by
  by_cases left : 0.0 < dx
  · rw [swipe?, if_pos ⟨sideways, far, left⟩, if_pos left]
  · have right := neg_of_far usable far left
    have other : ¬ (dy.abs < dx.abs ∧ threshold < dx.abs ∧ 0.0 < dx) := fun all => left all.2.2
    rw [swipe?, if_neg other, if_pos ⟨sideways, far, right⟩, if_neg left]

end Swipe

section Tests
variable {threshold dx dy : Float}

theorem tooShort_iff : tooShort threshold dx dy = true ↔ dx.abs ≤ dy.abs ∨ dx.abs ≤ threshold := by
  rw [tooShort, Bool.or_eq_true, decide_eq_true_iff, decide_eq_true_iff]

theorem not_tooShort_of_isNaN (missing : dx.isNaN = true) : ¬ tooShort threshold dx dy = true := by
  rw [← isNaN_abs] at missing
  rw [tooShort_iff, not_or]
  exact ⟨not_le_of_isNaN (Or.inl missing), not_le_of_isNaN (Or.inl missing)⟩

theorem tooShort_iff_of_isNaN (missing : dy.isNaN = true) :
    tooShort threshold dx dy = true ↔ dx.abs ≤ threshold := by
  rw [← isNaN_abs] at missing
  rw [tooShort_iff]
  exact or_iff_right (not_le_of_isNaN (Or.inr missing))

theorem not_tooShort_iff (usable : Settings.IsDistance threshold) (across : dx.isNaN = false)
    (along : dy.isNaN = false) : ¬ tooShort threshold dx dy = true ↔ dy.abs < dx.abs ∧ threshold < dx.abs := by
  have limit : threshold.isNaN = false := (isNaN_of_le usable.2).2
  rw [← isNaN_abs] at across along
  rw [tooShort_iff, not_or, not_le_iff across along, not_le_iff across limit]

end Tests

/-- What the tests make of a touch: one that is not too short goes one way or the other. -/
theorem classify_eq (threshold : Float) (start finish : TouchPoint) :
    classify threshold start finish =
      if tooShort threshold (start.x - finish.x) (start.y - finish.y) then none
      else some (if 0.0 < start.x - finish.x then .next else .previous) := by
  rw [classify]
  split
  · rfl
  · split <;> rfl

section Touch
variable {threshold : Float} {start finish : TouchPoint}

theorem classify_of_across_isNaN (across : (start.x - finish.x).isNaN = true) :
    classify threshold start finish = some .previous := by
  have left : ¬ 0.0 < start.x - finish.x := not_lt_of_isNaN (Or.inr across)
  rw [classify_eq, if_neg (not_tooShort_of_isNaN across), if_neg left]

theorem classify_of_along_isNaN (along : (start.y - finish.y).isNaN = true) :
    classify threshold start finish =
      if (start.x - finish.x).abs ≤ threshold then none
      else some (if 0.0 < start.x - finish.x then .next else .previous) := by
  rw [classify_eq]
  by_cases near : (start.x - finish.x).abs ≤ threshold
  · rw [if_pos near, if_pos ((tooShort_iff_of_isNaN along).mpr near)]
  · rw [if_neg near, if_neg ((tooShort_iff_of_isNaN along).not.mpr near)]

/-- On numbers the tests and the rule agree. -/
theorem classify_of_numbers (usable : Settings.IsDistance threshold) (across : (start.x - finish.x).isNaN = false)
    (along : (start.y - finish.y).isNaN = false) :
    classify threshold start finish = swipe? threshold (start.x - finish.x) (start.y - finish.y) := by
  have long := not_tooShort_iff usable across along
  rw [classify_eq]
  by_cases far : (start.y - finish.y).abs < (start.x - finish.x).abs ∧ threshold < (start.x - finish.x).abs
  · rw [if_neg (long.mpr far), swipe?_of_far usable far.1 far.2]
  · have short := not_not.mp (long.not.mpr far)
    rw [if_pos short, swipe?_of_short far]

end Touch

/-- The tests read a touch by the rule exactly if its distance sideways is a number, and the other one is
too unless the touch stayed within the threshold sideways anyhow. Otherwise they take it for a swipe, to
the previous section if the distance sideways is what is missing. Between points with finite
coordinates both distances are numbers. -/
theorem classify_eq_swipe?_iff {threshold : Float} (usable : Settings.IsDistance threshold) (start finish : TouchPoint) :
    let dx := start.x - finish.x
    let dy := start.y - finish.y
    (classify threshold start finish = swipe? threshold dx dy ↔
      dx.isNaN = false ∧ (dy.isNaN = false ∨ dx.abs ≤ threshold)) ∧
    (dx.isNaN = true → classify threshold start finish = some .previous) ∧
    (dx.isNaN = false → dy.isNaN = true → ¬ dx.abs ≤ threshold →
      classify threshold start finish = some (if 0.0 < dx then .next else .previous)) ∧
    ((∀ coordinate ∈ [start.x, start.y, finish.x, finish.y], coordinate.isFinite = true) →
      dx.isNaN = false ∧ dy.isNaN = false) := by
  intro dx dy
  refine ⟨?_, classify_of_across_isNaN, fun _ along far => ?_, fun finite => ⟨?_, ?_⟩⟩
  · cases across : dx.isNaN with
    | true =>
      rw [classify_of_across_isNaN across, swipe?_of_isNaN (Or.inl across)]
      simp
    | false =>
      cases along : dy.isNaN with
      | true =>
        rw [classify_of_along_isNaN along, swipe?_of_isNaN (Or.inr along)]
        simp [dx]
      | false => exact iff_of_true (classify_of_numbers usable across along) ⟨rfl, Or.inl rfl⟩
  · rw [classify_of_along_isNaN along, if_neg far]
  · exact isNaN_sub (finite start.x (by simp)) (finite finish.x (by simp))
  · exact isNaN_sub (finite start.y (by simp)) (finite finish.y (by simp))

/-- Along the page the touch went no distance that is a number, but sideways it stayed within the threshold. -/
theorem classify_eq_swipe?_iff_of_near :
    let start : TouchPoint := { x := 40.0, y := 0.0 / 0.0 }
    let finish : TouchPoint := { x := 0.0, y := 0.0 }
    Settings.IsDistance defaultThreshold ∧ (start.y - finish.y).isNaN = true ∧
      (classify defaultThreshold start finish = swipe? defaultThreshold (start.x - finish.x) (start.y - finish.y) ↔
        (start.x - finish.x).isNaN = false ∧
          ((start.y - finish.y).isNaN = false ∨ (start.x - finish.x).abs ≤ defaultThreshold)) ∧
      classify defaultThreshold start finish = none := by
  intro start finish
  have usable : Settings.IsDistance defaultThreshold := ⟨by decide +kernel, by decide +kernel⟩
  exact ⟨usable, by decide +kernel, (classify_eq_swipe?_iff usable start finish).1, by decide +kernel⟩

/-- A touch that did not travel any distance sideways that is a number is taken for a swipe. -/
theorem touch_without_distance_is_swipe :
    ¬ ∀ threshold, Settings.IsDistance threshold → ∀ start finish : TouchPoint,
      classify threshold start finish = swipe? threshold (start.x - finish.x) (start.y - finish.y) := by
  intro claim
  have usable : Settings.IsDistance defaultThreshold := ⟨by decide +kernel, by decide +kernel⟩
  have read := claim defaultThreshold usable { x := 0.0 / 0.0, y := 0.0 } { x := 0.0, y := 0.0 }
  exact absurd read (by decide +kernel)

end Vitae
