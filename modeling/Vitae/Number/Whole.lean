/-! Reading a whole number below a bound: an optional plus sign and ASCII digits, with
leading zeros allowed. The text is read from the left and the first fault met is the one
reported, so a number already too large hides a stray character further on. -/

namespace Vitae

inductive WholeFault
  | empty
  | invalidDigit
  | tooLarge
deriving DecidableEq, Repr

namespace WholeFault

def message : WholeFault → String
  | .empty => "cannot parse integer from empty string"
  | .invalidDigit => "invalid digit found in string"
  | .tooLarge => "number too large to fit in target type"

end WholeFault

namespace Whole

/-- The value of an ASCII digit. -/
def digit? (c : Char) : Option Nat :=
  if c.isDigit then some (c.toNat - 0x30) else none

/-- Reads digits after a prefix that was worth `value`. -/
def digits (bound : Nat) (value : Nat) : List Char → Except WholeFault Nat
  | [] => .ok value
  | c :: rest =>
    match digit? c with
    | none => .error .invalidDigit
    | some d =>
      if 10 * value + d < bound then digits bound (10 * value + d) rest
      else .error .tooLarge

/-- Reads a number below `bound`. A sign with nothing after it is a stray character. -/
def read (bound : Nat) (text : String) : Except WholeFault Nat :=
  match text.toList with
  | [] => .error .empty
  | ['+'] => .error .invalidDigit
  | '+' :: c :: rest => digits bound 0 (c :: rest)
  | c :: rest => digits bound 0 (c :: rest)

end Whole

end Vitae
