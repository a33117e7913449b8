import Vitae.Number.Decimal
import Vitae.Number.Word

/-! Numbers as a JSON text writes them, kept as written: whether one is an index or a
coordinate is for whoever reads it to say. A coordinate is worked out from the leading
digits that fit in a word, scaled by a power of ten in double arithmetic, and one that
comes out infinite is no number. -/

namespace Vitae.Json

/-- A number in its written parts. A part that is not there is empty. -/
structure Numeral where
  negative : Bool
  whole : List Char
  fraction : List Char
  exponent : Option Int
deriving DecidableEq, Repr

namespace Numeral

/-- The digits at the front of a text, if there are any, and what follows them. -/
def digits? (cs : List Char) : Option (List Char × List Char) :=
  match cs.takeWhile Char.isDigit with
  | [] => none
  | digits => some (digits, cs.dropWhile Char.isDigit)

/-- The whole part: a zero alone, or digits that do not begin with one. -/
def whole? (cs : List Char) : Option (List Char × List Char) :=
  match digits? cs with
  | some ('0' :: _ :: _, _) => none
  | found => found

/-- The fraction, which a point promises digits for. -/
def fraction? : List Char → Option (List Char × List Char)
  | '.' :: rest => digits? rest
  | rest => some ([], rest)

/-- The exponent, which its mark promises digits for. -/
def exponent? (cs : List Char) : Option (Option Int × List Char) :=
  match cs with
  | [] => some (none, [])
  | mark :: rest =>
    if mark = 'e' ∨ mark = 'E' then
      let (negative, rest) := Decimal.sign rest
      (digits? rest).map fun (digits, rest) =>
        let size : Int := Decimal.natural digits
        (some (if negative then -size else size), rest)
    else some (none, cs)

/-- Reads the number at the front of a text, after its sign. -/
def unsigned? (negative : Bool) (cs : List Char) : Option (Numeral × List Char) := do
  let (whole, rest) ← whole? cs
  let (fraction, rest) ← fraction? rest
  let (exponent, rest) ← exponent? rest
  some ({ negative, whole, fraction, exponent }, rest)

/-- Reads the number at the front of a text. -/
def read? : List Char → Option (Numeral × List Char)
  | '-' :: rest => unsigned? true rest
  | cs => unsigned? false cs

theorem length_digits? {cs digits rest : List Char} (found : digits? cs = some (digits, rest)) :
    rest.length < cs.length := by
  unfold digits? at found
  split at found
  · simp at found
  · next some_ =>
    have whole : cs.takeWhile Char.isDigit ++ cs.dropWhile Char.isDigit = cs :=
      List.takeWhile_append_dropWhile
    have lengths := congrArg List.length whole
    simp only [Option.some.injEq, Prod.mk.injEq] at found
    have := List.length_pos_iff.mpr some_
    simp only [List.length_append] at lengths
    rw [← found.2]
    omega

theorem length_unsigned? {negative : Bool} {cs rest : List Char} {value : Numeral}
    (found : unsigned? negative cs = some (value, rest)) : rest.length < cs.length := by
  simp only [unsigned?, Option.bind_eq_bind, Option.bind_eq_some_iff, Prod.exists,
    Option.some.injEq, Prod.mk.injEq] at found
  obtain ⟨whole, afterWhole, first, fraction, afterFraction, second, exponent, last, third,
    -, rfl⟩ := found
  have wholeShorter : afterWhole.length < cs.length := by
    unfold whole? at first
    split at first
    · simp at first
    · exact length_digits? first
  have fractionShorter : afterFraction.length ≤ afterWhole.length := by
    unfold fraction? at second
    split at second
    · have := length_digits? second
      simp only [List.length_cons]
      omega
    · simp_all
  have exponentShorter : last.length ≤ afterFraction.length := by
    unfold exponent? at third
    split at third
    · simp_all
    · next mark tail =>
      split at third
      · obtain ⟨⟨digits, after⟩, inner, same⟩ := Option.map_eq_some_iff.mp third
        have shorter : after.length < (Decimal.sign tail).2.length := length_digits? inner
        have signShorter := Decimal.length_sign tail
        simp only [Prod.mk.injEq] at same
        rw [← same.2]
        simp only [List.length_cons]
        omega
      · simp_all
  omega

theorem length_read? {c : Char} {cs rest : List Char} {value : Numeral}
    (found : read? (c :: cs) = some (value, rest)) : rest.length ≤ cs.length := by
  unfold read? at found
  split at found
  · next tail same =>
    have shorter := length_unsigned? found
    rw [(List.cons.inj same).2]
    omega
  · exact Nat.lt_succ_iff.mp (length_unsigned? found)

variable (numeral : Numeral)

/-- The value as an index: digits alone that write a word. -/
def index? : Option Nat :=
  if numeral.negative = false ∧ numeral.fraction = [] ∧ numeral.exponent = none
      ∧ Decimal.natural numeral.whole < Word.bound then
    some (Decimal.natural numeral.whole)
  else none

/-- Takes digits into a significand for as long as it stays a word; gives it back with the
number of digits taken and the number left over. -/
def absorb (significand : Nat) : List Char → Nat × Nat × Nat
  | [] => (significand, 0, 0)
  | c :: rest =>
    let more := 10 * significand + (c.toNat - 0x30)
    if more < Word.bound then
      let (final, taken, left) := absorb more rest
      (final, taken + 1, left)
    else (significand, 0, rest.length + 1)

/-- The power of ten nearest to `10 ^ power`. -/
def powerOfTen (power : Nat) : Float :=
  Float.ofScientific 1 false power

/-- Divides by a power of ten, in steps that doubles can hold. -/
def scaleDown (value : Float) (power : Nat) : Float :=
  if power ≤ 308 then value / powerOfTen power
  else if value == 0.0 then value
  else scaleDown (value / powerOfTen 308) (power - 308)
termination_by power

/-- Multiplies by a power of ten, unless the product is too large for a double. -/
def scaleUp? (value : Float) (power : Nat) : Option Float :=
  if power ≤ 308 then
    let product := value * powerOfTen power
    if product.isInf then none else some product
  else if value == 0.0 then some value
  else none

/-- The value as a coordinate. -/
def coordinate? : Option Float :=
  let (start, _, excess) := absorb 0 numeral.whole
  let (significand, places, _) := absorb start numeral.fraction
  let power : Int := numeral.exponent.getD 0 + excess - places
  let value := Float.ofNat significand
  let magnitude :=
    match power with
    | .ofNat up => scaleUp? value up
    | .negSucc down => some (scaleDown value (down + 1))
  magnitude.map fun x => if numeral.negative then -x else x

end Numeral

end Vitae.Json
