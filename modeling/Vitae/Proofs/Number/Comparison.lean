import Mathlib

/-! How numbers compare. Of two numbers one is at most the other, but what is not a number compares
with nothing, so "not at most" and "above" part there. Nothing here depends on how a difference is
rounded, only on when it is a number at all. -/

namespace Vitae.Number
open Float.Model Float.Model.UnpackedFloat

/-- What a number is made of: its sign, digits and exponent, unless it is a special value. -/
def parts (x : Float) : UnpackedFloat := x.toModel.unpack

section Parts

/-! ### The parts of numbers -/

theorem compare_eq_none_iff {a b : UnpackedFloat} : a.compare b = none ↔ a.isNaN = true ∨ b.isNaN = true := by
  fun_cases UnpackedFloat.compare a b <;> simp_all [UnpackedFloat.isNaN]

/-- Looked at from the other side a comparison comes out the other way round. -/
theorem compare_swap (a b : UnpackedFloat) : b.compare a = (a.compare b).map Ordering.swap := by
  have size (m n : Nat) (e f : Int) :
      (compare f e).then (compare n m) = ((compare e f).then (compare m n)).swap := by
    rw [Ordering.swap_then, ← Std.OrientedCmp.eq_swap, ← Std.OrientedCmp.eq_swap]
  cases a with
  | notANumber => cases b <;> rfl
  | infinity s =>
    cases b with
    | infinity t => cases s <;> cases t <;> rfl
    | _ => cases s <;> rfl
  | zero s =>
    cases b with
    | infinity t | finite t => cases t <;> rfl
    | _ => rfl
  | finite s m e =>
    cases b with
    | notANumber | zero => cases s <;> rfl
    | infinity t => cases s <;> cases t <;> rfl
    | finite t n f =>
      cases s <;> cases t
      · exact congrArg (some ∘ Ordering.swap) (size m n e f)
      · rfl
      · rfl
      · exact congrArg some (size m n e f)

/-- Only a full exponent with something in the mantissa stands for what is not a number. -/
theorem isNaN_unpack_packComponents {sign : Sign} {exponent : BitVec 11} {mantissa : BitVec 52} :
    (UnpackedFloat.unpack .binary64 (packComponents .binary64 sign exponent mantissa)).isNaN = true ↔
      exponent = -1#11 ∧ mantissa ≠ 0#52 := by
  unfold UnpackedFloat.unpack
  simp only [unpackExponent_packComponents, unpackMantissa_packComponents]
  by_cases full : exponent = -1#11
  · by_cases nothing : mantissa = 0#52
    · simp [full, nothing, UnpackedFloat.isNaN]
    · simp [full, nothing, UnpackedFloat.isNaN]
  · rw [if_neg full]
    refine iff_of_false ?_ fun both => full both.1
    repeat' split
    all_goals exact Bool.false_ne_true

/-- A result too large to be written becomes infinite, and stays a number. -/
theorem isNaN_unpack_pack (u : UnpackedFloat) :
    (UnpackedFloat.unpack .binary64 (UnpackedFloat.pack .binary64 u)).isNaN = u.isNaN := by
  cases u with
  | notANumber => rfl
  | infinity s | zero s => cases s <;> rfl
  | finite s m e =>
    rw [Bool.eq_iff_iff]
    refine iff_of_false ?_ Bool.false_ne_true
    unfold UnpackedFloat.pack
    dsimp only
    split
    · cases s <;> exact Bool.false_ne_true
    next =>
      split
      · rw [isNaN_unpack_packComponents]
        rintro ⟨full, _⟩
        have biased := congrArg BitVec.toNat full
        rw [BitVec.toNat_ofNat, Nat.mod_eq_of_lt (by omega)] at biased
        change _ = 2047 at biased
        omega
      · rw [isNaN_unpack_packComponents]
        rintro ⟨full, _⟩
        cases full

theorem isNaN_normalize (spec : Format) (mantissa exponent : Int) (sign : Sign) :
    (UnpackedFloat.normalize spec mantissa exponent sign).isNaN = false := by
  have rounded (sign : Sign) (mantissa : Nat) : (UnpackedFloat.round spec sign mantissa exponent).isNaN = false := by
    unfold UnpackedFloat.round roundWithAccuracy
    dsimp only
    split <;> rfl
  unfold UnpackedFloat.normalize
  split
  · exact rounded _ _
  · rfl
  · exact rounded _ _

theorem isNaN_sub_parts {spec : Format} {a b : UnpackedFloat} (first : a.isFinite = true) (second : b.isFinite = true) :
    (UnpackedFloat.sub spec a b).isNaN = false := by
  cases a with
  | notANumber | infinity => cases first
  | zero s =>
    cases b with
    | notANumber | infinity => cases second
    | zero t => cases s <;> cases t <;> rfl
    | finite => rfl
  | finite s =>
    cases b with
    | notANumber | infinity => cases second
    | zero => rfl
    | finite => exact isNaN_normalize _ _ _ _

end Parts

/-! ### The numbers themselves -/

variable {x y : Float}

theorem lt_iff : x < y ↔ (parts x).compare (parts y) = some .lt := by
  change decide ((parts x).lt (parts y) = true) = true ↔ _
  rw [decide_eq_true_iff, UnpackedFloat.lt, beq_iff_eq]

theorem le_iff : x ≤ y ↔ ∃ order, (parts x).compare (parts y) = some order ∧ order.isLE := by
  change decide ((parts x).le (parts y) = true) = true ↔ _
  rw [decide_eq_true_iff, UnpackedFloat.le, Option.any_eq_true]

theorem not_le_of_isNaN (missing : x.isNaN = true ∨ y.isNaN = true) : ¬ x ≤ y := by
  have incomparable : (parts x).compare (parts y) = none := compare_eq_none_iff.mpr missing
  intro below
  obtain ⟨order, compared, _⟩ := le_iff.mp below
  rw [incomparable] at compared
  cases compared

theorem isNaN_of_le (below : x ≤ y) : x.isNaN = false ∧ y.isNaN = false := by
  constructor
  · exact Bool.eq_false_iff.mpr fun missing => not_le_of_isNaN (Or.inl missing) below
  · exact Bool.eq_false_iff.mpr fun missing => not_le_of_isNaN (Or.inr missing) below

theorem not_lt_of_isNaN (missing : x.isNaN = true ∨ y.isNaN = true) : ¬ x < y := by
  have incomparable : (parts x).compare (parts y) = none := compare_eq_none_iff.mpr missing
  intro below
  rw [lt_iff, incomparable] at below
  cases below

/-- Two numbers always compare one way or the other. -/
theorem not_le_iff (first : x.isNaN = false) (second : y.isNaN = false) : ¬ x ≤ y ↔ y < x := by
  have comparable : (parts x).compare (parts y) ≠ none := by
    intro incomparable
    rcases compare_eq_none_iff.mp incomparable with missing | missing
    · exact Bool.false_ne_true (first.symm.trans missing)
    · exact Bool.false_ne_true (second.symm.trans missing)
  obtain ⟨order, compared⟩ := Option.ne_none_iff_exists'.mp comparable
  rw [le_iff, lt_iff, compare_swap (parts x) (parts y), compared]
  cases order <;> simp

theorem isNaN_of_lt (below : x < y) : x.isNaN = false ∧ y.isNaN = false := by
  constructor
  · exact Bool.eq_false_iff.mpr fun missing => not_lt_of_isNaN (Or.inl missing) below
  · exact Bool.eq_false_iff.mpr fun missing => not_lt_of_isNaN (Or.inr missing) below

theorem not_le_of_lt (below : x < y) : ¬ y ≤ x := by
  obtain ⟨first, second⟩ := isNaN_of_lt below
  exact (not_le_iff second first).mpr below

theorem isNaN_abs (x : Float) : x.abs.isNaN = x.isNaN := by
  refine (isNaN_unpack_pack (parts x).abs).trans ?_
  change _ = (parts x).isNaN
  cases parts x <;> rfl

theorem isNaN_sub (first : x.isFinite = true) (second : y.isFinite = true) : (x - y).isNaN = false :=
  (isNaN_unpack_pack _).trans (isNaN_sub_parts first second)

/-- A number has a sign unless it is zero, written with a sign or without. -/
theorem sign_cases (number : x.isNaN = false) : x < 0.0 ∨ x.abs = 0.0 ∨ 0.0 < x := by
  have size : x.abs = .ofModel (.pack (parts x).abs) := rfl
  have zero : parts 0.0 = .zero .positive := rfl
  change (parts x).isNaN = false at number
  rw [lt_iff, lt_iff, size, zero]
  generalize parts x = u at number
  cases u with
  | notANumber => cases number
  | zero => exact Or.inr (Or.inl rfl)
  | infinity s | finite s =>
    cases s with
    | negative => exact Or.inl rfl
    | positive => exact Or.inr (Or.inr rfl)

end Vitae.Number
