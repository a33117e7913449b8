/-! Decimal numerals: digits scaled by a power of ten, and the double nearest to them. The
text form has an optional sign, digits with at most one point among or around them, and an
optional exponent; the words for infinity and for no number are read in any case. -/

namespace Vitae

/-- The number `digits * 10 ^ exponent`, or its negation. -/
structure Decimal where
  negative : Bool
  digits : Nat
  exponent : Int
deriving DecidableEq, Repr

inductive DecimalFault
  | empty
  | invalid
deriving DecidableEq, Repr

namespace DecimalFault

def message : DecimalFault → String
  | .empty => "cannot parse float from empty string"
  | .invalid => "invalid float literal"

end DecimalFault

namespace Decimal

/-- The number that a run of ASCII digits writes. -/
def natural (digits : List Char) : Nat :=
  digits.foldl (fun value c => 10 * value + (c.toNat - 0x30)) 0

/-- The nearest double, halves going to the even one; too large a number is infinite. -/
def toFloat (d : Decimal) : Float :=
  let magnitude :=
    match d.exponent with
    | .ofNat e => Float.ofScientific d.digits false e
    | .negSucc e => Float.ofScientific d.digits true (e + 1)
  if d.negative then -magnitude else magnitude

/-- The sign in front of a numeral, whether it is a minus, and what follows. -/
def sign : List Char → Bool × List Char
  | '-' :: rest => (true, rest)
  | '+' :: rest => (false, rest)
  | rest => (false, rest)

theorem length_sign (cs : List Char) : (sign cs).2.length ≤ cs.length := by
  unfold sign
  split <;> simp

/-- The exponent that ends a numeral: nothing, or a mark, a sign and digits. -/
def exponent? : List Char → Option Int
  | [] => some 0
  | mark :: rest =>
    let (negative, digits) := sign rest
    if (mark = 'e' ∨ mark = 'E') ∧ digits ≠ [] ∧ digits.all Char.isDigit then
      some (if negative then -(natural digits : Int) else natural digits)
    else none

/-- Reads a numeral whose sign has been read already. -/
def unsigned? (negative : Bool) (cs : List Char) : Option Decimal :=
  let whole := cs.takeWhile Char.isDigit
  let rest := cs.dropWhile Char.isDigit
  let (fraction, rest) :=
    match rest with
    | '.' :: rest => (rest.takeWhile Char.isDigit, rest.dropWhile Char.isDigit)
    | rest => ([], rest)
  if whole = [] ∧ fraction = [] then none
  else (exponent? rest).map fun e =>
    { negative, digits := natural (whole ++ fraction), exponent := e - fraction.length }

/-- The words for values that no digits write. -/
def named? (negative : Bool) (cs : List Char) : Option Float :=
  let word := String.ofList (cs.map Char.toLower)
  if word = "nan" then some (0.0 / 0.0)
  else if word = "inf" ∨ word = "infinity" then
    some (if negative then -1.0 / 0.0 else 1.0 / 0.0)
  else none

/-- Reads a double from its text. -/
def read (text : String) : Except DecimalFault Float :=
  if text = "" then .error .empty
  else
    let (negative, rest) := sign text.toList
    match unsigned? negative rest with
    | some numeral => .ok numeral.toFloat
    | none =>
      match named? negative rest with
      | some value => .ok value
      | none => .error .invalid

end Decimal

end Vitae
