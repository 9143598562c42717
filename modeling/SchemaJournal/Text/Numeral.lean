/-!
# Decimal numerals

A numeral is a row of decimal digits, with a plus sign before it or not. It is read from left to right: the first
character that is no digit, or the first digit that takes the number over a limit, is what is wrong with it.
-/

namespace SchemaJournal.Text

/-- Why a text is no numeral. -/
inductive NumeralFault where
  | empty
  | invalidDigit
  | tooLarge
deriving DecidableEq, Repr

namespace NumeralFault

/-- The wording of a fault. -/
def message : NumeralFault → String
  | .empty => "cannot parse integer from empty string"
  | .invalidDigit => "invalid digit found in string"
  | .tooLarge => "number too large to fit in target type"

end NumeralFault

/-- Reads digits after a number that has been read. -/
def readDigits (limit n : Nat) : List Char → Except NumeralFault Nat
  | [] => .ok n
  | c :: rest =>
    if !c.isDigit then .error .invalidDigit
    else
      let n := 10 * n + (c.toNat - 48)
      if limit < n then .error .tooLarge else readDigits limit n rest

/-- Reads a numeral up to a limit. -/
def readNumeral (limit : Nat) : List Char → Except NumeralFault Nat
  | [] => .error .empty
  | ['+'] => .error .invalidDigit
  | '+' :: rest => readDigits limit 0 rest
  | cs => readDigits limit 0 cs

end SchemaJournal.Text
