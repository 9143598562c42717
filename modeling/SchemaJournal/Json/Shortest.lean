import SchemaJournal.Json.Double

/-!
# The shortest text of a double

A double is written with the fewest decimal digits that read back as it, and of those with the nearest ones.

- `Double.decimal` chooses the digits by exact arithmetic: grid by grid, from one digit to seventeen, it tests the two
  neighbours of the value against the interval of reals that round to it;
- `Double.text` places the point: positionally for numbers from 10^-5 up to below 10^16, with an exponent otherwise.
-/

namespace SchemaJournal.Json

namespace Double

/-- How many decimal digits a natural number has. -/
def digitCount (n : Nat) : Nat := (Nat.toDigits 10 n).length

/-- The exponent of ten at or below `num / den`, both positive. -/
def decimalExponent (num den : Nat) : Int :=
  let estimate : Int := (digitCount num : Int) - (digitCount den : Int)
  if den * tenTo estimate.toNat ≤ num * tenTo (-estimate).toNat then estimate else estimate - 1

/-- Whether `quarters · 2 ^ (exponent - 2)` lies between the midpoints towards the two neighbouring doubles; the
midpoints belong to the interval when the significand is even. Both sides are given over one denominator. -/
def roundsHere (d : Double) (candidate unit : Nat) : Bool :=
  let below := if d.significand = leastFull ∧ -1074 < d.exponent then 4 * d.significand - 1 else 4 * d.significand - 2
  let above := 4 * d.significand + 2
  if d.significand % 2 = 0 then
    below * unit ≤ candidate && candidate ≤ above * unit
  else
    below * unit < candidate && candidate < above * unit

/-- The decimal `digits · 10 ^ power` with the given number of digits that is nearest to the double, if a decimal of
that many digits reads back as it. -/
def decimalOf? (d : Double) (count : Nat) : Option (Nat × Int) :=
  let power := decimalExponent d.numerator d.denominator - (count : Int) + 1
  -- over a common denominator a quarter of a unit in the last place is `unit` and a step of the grid is `step`
  let unit := tenTo (-power).toNat <<< (d.exponent - 2).toNat
  let step := tenTo power.toNat <<< (2 - d.exponent).toNat
  let value := 4 * d.significand * unit
  let low := value / step
  let lowReads := d.roundsHere (low * step) unit
  let highReads := d.roundsHere ((low + 1) * step) unit
  let middle := (2 * low + 1) * step
  let highNearer := middle < 2 * value || (middle == 2 * value && low % 2 == 1)
  if lowReads && (!highReads || !highNearer) then some (low, power)
  else if highReads then some (low + 1, power)
  else none

/-- Moves trailing zeros of the digits into the power. -/
def dropZeros (digits : Nat) (power : Int) : Nat × Int :=
  if h : digits ≠ 0 ∧ digits % 10 = 0 then dropZeros (digits / 10) (power + 1) else (digits, power)
termination_by digits
decreasing_by omega

/-- The fewest digits that read back, as `digits · 10 ^ power`, for a double other than zero. -/
def decimal (d : Double) : Nat × Int :=
  match (List.range 17).findSome? fun n => d.decimalOf? (n + 1) with
  | some (digits, power) => dropZeros digits power
  | none => (d.significand, 0)

/-- An exponent with its sign. -/
def exponentText (e : Int) : String := if e < 0 then toString e else "+" ++ toString e

/-- Digits with the point after `point` of them; outside of the positional range, an exponent. -/
def place (digits : String) (point : Int) : String :=
  let length : Int := digits.length
  let zeros (n : Int) := String.ofList (List.replicate n.toNat '0')
  if 0 < point ∧ point ≤ 16 then
    if length ≤ point then digits ++ zeros (point - length) ++ ".0"
    else String.ofList (digits.toList.take point.toNat) ++ "." ++ String.ofList (digits.toList.drop point.toNat)
  else if -5 < point ∧ point ≤ 0 then
    "0." ++ zeros (-point) ++ digits
  else
    let first := String.ofList (digits.toList.take 1)
    let more := String.ofList (digits.toList.drop 1)
    (if more.isEmpty then first else first ++ "." ++ more) ++ "e" ++ exponentText (point - 1)

/-- The written form: shortest digits, at least one of them after the point. -/
def text (d : Double) : String :=
  let sign := if d.negative then "-" else ""
  if d.isZero then
    sign ++ "0.0"
  else
    let (digits, power) := d.decimal
    let shown := toString digits
    sign ++ place shown ((shown.length : Int) + power)

end Double

end SchemaJournal.Json
