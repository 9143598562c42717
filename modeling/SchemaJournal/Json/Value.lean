import SchemaJournal.Json.Number

/-!
# JSON values and their two written forms

The members of an object keep the order in which they were given. `Value.compact` writes a value without any space,
`Value.pretty` on several lines, indented by two spaces a level; both spell strings and numbers alike.
-/

namespace SchemaJournal.Json

/-- A JSON value. -/
inductive Value where
  | null
  | bool (b : Bool)
  | number (n : Number)
  | string (s : String)
  | array (items : List Value)
  | object (members : List (String × Value))
deriving Inhabited

/-! ## Strings -/

/-- A four-digit hexadecimal escape. -/
def unitEscape (n : Nat) : List Char :=
  let digits := Nat.toDigits 16 n
  ['\\', 'u'] ++ List.replicate (4 - digits.length) '0' ++ digits

/-- The spelling of one character: quotes, backslashes and control characters are escaped. -/
def escapeChar (c : Char) : List Char :=
  match c with
  | '"' => ['\\', '"']
  | '\\' => ['\\', '\\']
  | '\x08' => ['\\', 'b']
  | '\x0c' => ['\\', 'f']
  | '\n' => ['\\', 'n']
  | '\r' => ['\\', 'r']
  | '\t' => ['\\', 't']
  | c => if c.toNat < 0x20 then unitEscape c.toNat else [c]

/-- A string in double quotes. -/
def stringText (s : String) : String := String.ofList ('"' :: s.toList.flatMap escapeChar ++ ['"'])

/-! ## The compact form -/

namespace Value

mutual

/-- The form without spaces. -/
def compact : Value → String
  | .null => "null"
  | .bool b => if b then "true" else "false"
  | .number n => n.text
  | .string s => stringText s
  | .array items => "[" ++ compactItems items ++ "]"
  | .object members => "\x7b" ++ compactMembers members ++ "\x7d"

/-- Items with commas between them. -/
def compactItems : List Value → String
  | [] => ""
  | [item] => item.compact
  | item :: rest => item.compact ++ "," ++ compactItems rest

/-- Members with commas between them. -/
def compactMembers : List (String × Value) → String
  | [] => ""
  | [(key, value)] => stringText key ++ ":" ++ value.compact
  | (key, value) :: rest => stringText key ++ ":" ++ value.compact ++ "," ++ compactMembers rest

end

/-! ## The pretty form -/

/-- A new line at a level of nesting. -/
def newLine (level : Nat) : String := "\n" ++ String.ofList (List.replicate (2 * level) ' ')

mutual

/-- The form on several lines, for a value that stands at a level of nesting; empty arrays and objects stay short. -/
def prettyAt (level : Nat) : Value → String
  | .null => "null"
  | .bool b => if b then "true" else "false"
  | .number n => n.text
  | .string s => stringText s
  | .array [] => "[]"
  | .array items => "[" ++ prettyItems (level + 1) items ++ newLine level ++ "]"
  | .object [] => "\x7b\x7d"
  | .object members => "\x7b" ++ prettyMembers (level + 1) members ++ newLine level ++ "\x7d"

/-- Items, each on its own line. -/
def prettyItems (level : Nat) : List Value → String
  | [] => ""
  | [item] => newLine level ++ item.prettyAt level
  | item :: rest => newLine level ++ item.prettyAt level ++ "," ++ prettyItems level rest

/-- Members, each on its own line. -/
def prettyMembers (level : Nat) : List (String × Value) → String
  | [] => ""
  | [(key, value)] => newLine level ++ stringText key ++ ": " ++ value.prettyAt level
  | (key, value) :: rest =>
    newLine level ++ stringText key ++ ": " ++ value.prettyAt level ++ "," ++ prettyMembers level rest

end

/-- The form on several lines. -/
def pretty (v : Value) : String := v.prettyAt 0

end Value

end SchemaJournal.Json
