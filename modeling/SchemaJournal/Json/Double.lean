/-!
# Doubles

A finite binary number of 64 bits is a sign, a significand below 2^53 and an exponent of two, the significand having
its highest bit set unless the exponent is the least one. All arithmetic rounds an exact quotient of natural numbers
(`Double.nearest?`): to the nearest double, a half going to the even significand, and no result beyond the largest.
-/

namespace SchemaJournal.Json

/-- The least number of 54 bits, below which all significands are. -/
abbrev significandBound : Nat := 0x20000000000000

/-- The least number of 53 bits. -/
abbrev leastFull : Nat := 0x10000000000000

/-- A finite double: `± significand · 2 ^ exponent`. -/
structure Double where
  negative : Bool
  significand : Nat
  exponent : Int
  canonical : significand < significandBound ∧ -1074 ≤ exponent ∧ exponent ≤ 971 ∧
    (leastFull ≤ significand ∨ exponent = -1074)
deriving DecidableEq

/-- Ten to a power. -/
def tenTo (n : Nat) : Nat := Nat.pow 10 n

namespace Double

/-- The double with these parts, if they are canonical. -/
def ofParts? (negative : Bool) (significand : Nat) (exponent : Int) : Option Double :=
  if h : significand < significandBound ∧ -1074 ≤ exponent ∧ exponent ≤ 971 ∧
      (leastFull ≤ significand ∨ exponent = -1074) then
    some ⟨negative, significand, exponent, h⟩
  else
    none

/-- Zero, of either sign. -/
def zero (negative : Bool) : Double := ⟨negative, 0, -1074, by decide⟩

/-- The numerator of the absolute value. -/
def numerator (d : Double) : Nat := d.significand <<< d.exponent.toNat

/-- The denominator of the absolute value, a power of two. -/
def denominator (d : Double) : Nat := 1 <<< (-d.exponent).toNat

/-- A quotient rounded to the nearest integer, a half going to the even neighbour. -/
def roundQuotient (num den : Nat) : Nat :=
  let low := num / den
  let rest := num % den
  if 2 * rest < den then low else if den < 2 * rest then low + 1 else low + low % 2

/-- The exponent at which the significand of `num / den` has 53 bits, or the least exponent for small quotients. -/
def quotientExponent (num den : Nat) : Int :=
  let estimate : Int := (num.log2 : Int) - (den.log2 : Int)
  let reached : Bool := den <<< estimate.toNat ≤ num <<< (-estimate).toNat
  max (-1074) (if reached then estimate - 52 else estimate - 53)

/-- The double nearest to `± num / den`; there is none when that lies beyond the largest double. -/
def nearest? (negative : Bool) (num den : Nat) : Option Double :=
  if num = 0 then
    some (zero negative)
  else
    let exponent := quotientExponent num den
    let significand := roundQuotient (num <<< (-exponent).toNat) (den <<< exponent.toNat)
    if significand = significandBound then ofParts? negative leastFull (exponent + 1)
    else ofParts? negative significand exponent

/-- The rounded product. -/
def times? (a b : Double) : Option Double :=
  nearest? (a.negative != b.negative) (a.numerator * b.numerator) (a.denominator * b.denominator)

/-- The rounded quotient by a double other than zero. -/
def over? (a b : Double) : Option Double :=
  nearest? (a.negative != b.negative) (a.numerator * b.denominator) (a.denominator * b.numerator)

/-- The double nearest to a power of ten. -/
def powerOfTen? (n : Nat) : Option Double := nearest? false (tenTo n) 1

/-- Whether this is a zero of either sign. -/
def isZero (d : Double) : Bool := d.significand == 0

/-- The least power of ten is 1, the greatest below the largest double is this one. -/
def greatestPower : Nat := 308

/-- Multiplies by a power of ten in one rounded step, or divides by the greatest power first as often as a small
exponent needs it. -/
def scale? (d : Double) (exponent : Int) : Option Double :=
  if exponent.natAbs ≤ greatestPower then
    (powerOfTen? exponent.natAbs).bind fun power => if 0 ≤ exponent then d.times? power else d.over? power
  else if d.isZero then
    some d
  else if 0 ≤ exponent then
    none
  else
    (powerOfTen? greatestPower).bind fun power => (d.over? power).bind fun small => small.scale? (exponent + 308)
termination_by exponent.natAbs
decreasing_by simp only [greatestPower] at *; omega

end Double

end SchemaJournal.Json
