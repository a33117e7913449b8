/-! Arithmetic on 64-bit unsigned words, where a sum that leaves the range is no word. -/

namespace Vitae.Word

/-- One more than the largest word. -/
def bound : Nat := UInt64.size

/-- The sum, when it is a word. -/
def add? (a b : Nat) : Option Nat :=
  if a + b < bound then some (a + b) else none

theorem add?_eq_some_iff {a b c : Nat} : add? a b = some c ↔ c = a + b ∧ a + b < bound := by
  unfold add?
  split <;> simp_all [eq_comm]

theorem add?_eq_none_iff {a b : Nat} : add? a b = none ↔ bound ≤ a + b := by
  unfold add?
  split <;> simp <;> omega

end Vitae.Word
