/-! The shortest decimal that reads back as a given double. Doubles stand at the middle of
the reals that round to them, an interval closed exactly when the mantissa is even. The
digits come from the coarsest grid of powers of ten with a point in that interval; of two
such points the nearer is taken, and the upper one when both are equally near. -/

namespace Vitae.Shortest

/-- The double `mantissa * 2 ^ exponent` together with the interval that rounds to it. All
three numerators stand over one denominator. -/
structure Interval where
  low : Nat
  value : Nat
  high : Nat
  denominator : Nat
  closed : Bool

/-- The interval of the positive finite double with these bits. Below a power of two the
neighbours are twice as close, so the lower half is shorter there. -/
def interval (bits : UInt64) : Interval :=
  let fraction := bits.toNat % Nat.pow 2 52
  let scale : Nat := bits.toNat / Nat.pow 2 52 % 2048
  let mantissa := if scale = 0 then fraction else fraction + Nat.pow 2 52
  let exponent : Int := if scale = 0 then -1074 else Int.ofNat scale - 1075
  let below := if fraction = 0 ∧ 1 < scale then 1 else 2
  let numerator (quarters : Nat) := quarters * Nat.pow 2 exponent.toNat
  { low := numerator (4 * mantissa - below)
    value := numerator (4 * mantissa)
    high := numerator (4 * mantissa + 2)
    denominator := 4 * Nat.pow 2 (-exponent).toNat
    closed := mantissa % 2 = 0 }

/-- The point of the grid of multiples of `10 ^ power` to use, if the interval holds one,
as a multiple of the grid's unit. -/
def onGrid (i : Interval) (power : Int) : Option Nat :=
  let stretch := Nat.pow 10 (-power).toNat
  let unit := i.denominator * Nat.pow 10 power.toNat
  let inside (multiple : Nat) : Bool :=
    let point := multiple * unit
    if i.closed then i.low * stretch ≤ point && point ≤ i.high * stretch
    else i.low * stretch < point && point < i.high * stretch
  let lower := i.value * stretch / unit
  let upper := lower + 1
  let nearLower := 2 * (i.value * stretch - lower * unit) < unit
  match inside lower, inside upper with
  | true, true => some (if nearLower then lower else upper)
  | true, false => some lower
  | false, true => some upper
  | false, false => none

/-- Digits and power of ten of the shortest decimal. Every double has one between the powers
searched. -/
def digits (bits : UInt64) : Nat × Int :=
  let i := interval bits
  let powers := (List.range 660).map fun (step : Nat) => 309 - Int.ofNat step
  (powers.findSome? fun power => (onGrid i power).map (·, power)).getD (0, 0)

/-- Writes `digits * 10 ^ power` without an exponent. -/
def positional (digits : Nat) (power : Int) : String :=
  if 0 ≤ power then
    toString (digits * Nat.pow 10 power.toNat)
  else
    let places := (-power).toNat
    let written := (toString digits).toList
    let padded := List.replicate (places + 1 - written.length) '0' ++ written
    let whole := padded.take (padded.length - places)
    String.ofList (whole ++ '.' :: padded.drop (padded.length - places))

/-- The plain text of a double: shortest digits, never an exponent, no point in a whole
number. -/
def plain (x : Float) : String :=
  if x.isNaN then "NaN"
  else
    let mark := if Nat.pow 2 63 ≤ x.toBits.toNat then "-" else ""
    let magnitude :=
      if x.isInf then "inf"
      else if x == 0.0 then "0"
      else
        let (n, power) := digits x.toBits
        positional n power
    mark ++ magnitude

end Vitae.Shortest
