/-!
# Percent-encoding

A text is percent-encoded by writing the bytes of some of its characters as `%` and two hexadecimal digits. The
characters that are written so are those of a set, and all beyond ASCII. A `%` that stands there already is kept.

`percentDecode` undoes such escapes and gives the bytes; a `%` without two digits after it stands for itself.
-/

namespace SchemaJournal.Text

/-- The character of a hexadecimal digit, letters in upper case. -/
def hexDigit (n : Nat) : Char := if n < 10 then Char.ofNat (48 + n) else Char.ofNat (55 + n)

/-- The value of a hexadecimal digit. -/
def hexValue? (c : Char) : Option Nat :=
  if '0' ≤ c ∧ c ≤ '9' then some (c.toNat - 48)
  else if 'a' ≤ c ∧ c ≤ 'f' then some (c.toNat - 87)
  else if 'A' ≤ c ∧ c ≤ 'F' then some (c.toNat - 55)
  else none

/-- The escape of a byte. -/
def escapeByte (b : UInt8) : List Char := ['%', hexDigit (b.toNat / 16), hexDigit (b.toNat % 16)]

/-- A character as it is or, if it is to be escaped, as the escapes of its bytes. -/
def escapeChar (set : Char → Bool) (c : Char) : List Char :=
  if 128 ≤ c.toNat || set c then (String.utf8EncodeChar c).flatMap escapeByte else [c]

/-- Escapes the characters of a set, and all beyond ASCII. -/
def percentEncode (set : Char → Bool) (cs : List Char) : List Char := cs.flatMap (escapeChar set)

/-- The bytes of a text, its escapes undone. -/
def percentDecode : List Char → List UInt8
  | [] => []
  | '%' :: a :: b :: rest =>
    match hexValue? a, hexValue? b with
    | some high, some low => UInt8.ofNat (16 * high + low) :: percentDecode rest
    | _, _ => String.utf8EncodeChar '%' ++ percentDecode (a :: b :: rest)
  | c :: rest => String.utf8EncodeChar c ++ percentDecode rest

/-! ## Sets of characters -/

/-- Control characters of ASCII. -/
def isControl (c : Char) : Bool := c.toNat < 32 || c.toNat == 127

/-- What is escaped in a query. -/
def inQuerySet (c : Char) : Bool := isControl c || [' ', '"', '#', '<', '>'].contains c

/-- What is escaped in a fragment. -/
def inFragmentSet (c : Char) : Bool := isControl c || [' ', '"', '<', '>', '\x60'].contains c

/-- What is escaped in a path. -/
def inPathSet (c : Char) : Bool := inFragmentSet c || ['#', '?', '\x7b', '\x7d'].contains c

/-- What is escaped in a user name and in a password. -/
def inUserinfoSet (c : Char) : Bool :=
  inPathSet c || ['/', ':', ';', '=', '@', '[', '\\', ']', '^', '|'].contains c

end SchemaJournal.Text
