/-! Hexadecimal digits. They are read in either case and written in upper case. -/

namespace Vitae.Text

/-- The upper-case digit for a value below sixteen. -/
def hexDigit (value : Nat) : Char :=
  Char.ofNat (if value < 10 then 0x30 + value else 0x37 + value)

/-- The value of a hexadecimal digit. -/
def hexValue? (c : Char) : Option Nat :=
  if c.isDigit then some (c.toNat - 0x30)
  else if 'A' ≤ c ∧ c ≤ 'F' then some (c.toNat - 0x37)
  else if 'a' ≤ c ∧ c ≤ 'f' then some (c.toNat - 0x57)
  else none

theorem hexValue?_hexDigit {value : Nat} (small : value < 16) :
    hexValue? (hexDigit value) = some value := by
  have : ∀ v : Fin 16, hexValue? (hexDigit v.val) = some v.val := by decide
  exact this ⟨value, small⟩

end Vitae.Text
