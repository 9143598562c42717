import SchemaJournal.Json.Shortest

/-!
# Numbers

A number is an integer of at most 64 bits, signed or not, or a double. `Numeral` is the number as it is spelled;
`Numeral.number?` says which number a spelling means: an integer that fits stays one, all else is a double, and a
spelling beyond the largest double means nothing.

The double of a spelling is not always the nearest one. Its significand is made of the first digits that together fit
into 64 bits; that significand is scaled by a power of ten in one rounded step.
-/

namespace SchemaJournal.Json

/-- The least integer of 64 bits with a sign. -/
abbrev leastSigned : Int := -0x8000000000000000

/-- The least integer that is too great for 64 bits with a sign. -/
abbrev signedBound : Int := 0x8000000000000000

/-- The least integer that is too great for 64 bits without a sign. -/
abbrev unsignedBound : Int := 0x10000000000000000

/-- A number of a document. -/
inductive Number where
  | integer (value : Int) (inRange : leastSigned ≤ value ∧ value < unsignedBound)
  | double (value : Double)
deriving DecidableEq

namespace Number

/-- The integer as a number, if it has at most 64 bits. -/
def ofInt? (value : Int) : Option Number :=
  if h : leastSigned ≤ value ∧ value < unsignedBound then some (.integer value h) else none

/-- The written form of a number. -/
def text : Number → String
  | .integer value _ => toString value
  | .double value => value.text

end Number

/-- A number as it is spelled: sign, digits before the point, digits after it, and the exponent with its sign. -/
structure Numeral where
  negative : Bool
  whole : List Nat
  fraction : Option (List Nat)
  exponent : Option (Bool × List Nat)
deriving DecidableEq, Repr

namespace Numeral

/-- The number that decimal digits spell. -/
def ofDigits (digits : List Nat) : Nat := digits.foldl (fun n d => 10 * n + d) 0

/-- Appends digits to a significand as long as it stays below 2^64; also how many were appended. -/
def gather (significand : Nat) : List Nat → Nat × Nat
  | [] => (significand, 0)
  | d :: rest =>
    if (10 * significand + d : Nat) < unsignedBound then
      let (result, taken) := gather (10 * significand + d) rest
      (result, taken + 1)
    else
      (significand, 0)

/-- The exponent that a spelling states. -/
def statedExponent (n : Numeral) : Int :=
  match n.exponent with
  | none => 0
  | some (negative, digits) => if negative then -(ofDigits digits : Int) else ofDigits digits

/-- The double of a spelling. -/
def double? (n : Numeral) : Option Double :=
  let (high, taken) := gather 0 n.whole
  let (significand, places) := gather high (n.fraction.getD [])
  let exponent := n.statedExponent + (n.whole.length - taken : Nat) - places
  (Double.nearest? n.negative significand 1).bind (·.scale? exponent)

/-- The number of a spelling; there is none beyond the largest double. -/
def number? (n : Numeral) : Option Number :=
  let asDouble := n.double?.map Number.double
  if n.fraction.isSome || n.exponent.isSome then
    asDouble
  else
    let value := ofDigits n.whole
    if n.negative then
      if value = 0 then asDouble else (Number.ofInt? (-(value : Int))).or asDouble
    else
      (Number.ofInt? value).or asDouble

end Numeral

end SchemaJournal.Json
