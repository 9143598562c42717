/-!
# Punycode

A label beyond ASCII is written in ASCII as its ASCII characters, a hyphen after them if there are any, and digits of
base 36 that say which other characters stand where. Those characters are put in from the lowest on: a number, spelled
with its lowest digit first, says how many steps to go, where a step leads to the next place in the label and from its
end to the next character.

`Insertion` is the state between two digits; `decode?` reads a label.
-/

namespace SchemaJournal.Connection.Domain.Punycode

/-- The value of a digit: letters come before numbers. -/
def digit? (c : Char) : Option Nat :=
  if c.isLower then some (c.toNat - 97)
  else if c.isUpper then some (c.toNat - 65)
  else if c.isDigit then some (c.toNat - 22)
  else none

/-- The number of digits. -/
def base : Nat := 36

/-- The largest number of steps. -/
def largest : Nat := 4294967295

/-- The smallest digit at a place of a number after which the number goes on. It depends on the bias, a guess at how
long the number is. -/
def threshold (bias place : Nat) : Nat := min 26 (max 1 (base * (place + 1) - bias))

/-- Divides a number until it is small, and counts the bases. -/
def shrink (n count : Nat) : Nat × Nat := if 455 < n then shrink (n / 35) (count + base) else (n, count)
termination_by n
decreasing_by omega

/-- The bias after a number of steps that put the character into a label that has so many now. -/
def adapted (steps length : Nat) (isFirst : Bool) : Nat :=
  let n := if isFirst then steps / 700 else steps / 2
  let (n, count) := shrink (n + n / length) 0
  count + base * n / (n + 38)

/-- What has been read of a label. -/
structure Insertion where
  /-- The characters that have been put in so far. -/
  label : List Char
  /-- The last of them, and the place after it. -/
  codePoint : Nat
  position : Nat
  bias : Nat
  /-- The number that is being read: how many digits it has so far, and what they count together. -/
  place : Nat
  steps : Nat
  /-- What the next digit counts. -/
  weight : Nat

namespace Insertion

/-- Before the first number. -/
def start (label : List Char) : Insertion := ⟨label, 128, 0, 72, 0, 0, 1⟩

/-- Puts a character in after all digits of a number. -/
def insert? (s : Insertion) (steps : Nat) : Option Insertion :=
  let length := s.label.length + 1
  let codePoint := s.codePoint + (s.position + steps) / length
  let position := (s.position + steps) % length
  if codePoint.isValidChar then
    some
      { label := s.label.insertIdx position (Char.ofNat codePoint)
        codePoint
        position := position + 1
        bias := adapted steps length (s.position == 0)
        place := 0
        steps := 0
        weight := 1 }
  else
    none

/-- Reads a digit. -/
def read? (s : Insertion) (digit : Nat) : Option Insertion :=
  let steps := s.steps + digit * s.weight
  let threshold := threshold s.bias s.place
  if largest < s.position + steps then none
  else if digit < threshold then s.insert? steps
  else
    let weight := s.weight * (base - threshold)
    if largest < weight then none else some { s with place := s.place + 1, steps, weight }

/-- Reads digits up to their end, where no number may be open. -/
def readAll? (s : Insertion) : List Char → Option (List Char)
  | [] => if s.place = 0 then some s.label else none
  | c :: rest => do readAll? (← s.read? (← digit? c)) rest

end Insertion

/-- Reads a label. -/
def decode? (cs : List Char) : Option (List Char) :=
  let digits := (cs.reverse.takeWhile (· != '-')).reverse
  let plain := cs.take (cs.length - digits.length - 1)
  if cs.any (128 ≤ ·.toNat) then none
  else if plain.isEmpty then (Insertion.start []).readAll? cs
  else (Insertion.start plain).readAll? digits

end SchemaJournal.Connection.Domain.Punycode
