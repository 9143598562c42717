import SchemaJournal.Text.Character

/-!
# Quoted texts

A text named in a message stands in double quotes (`quoted`); quotes and backslashes inside it are escaped, line ends,
tabs and the null character have short escapes, and every other hidden character is written by its code point. A literal
of SQL stands in single quotes (`sqlLiteral`); a quote inside it is written twice.
-/

namespace SchemaJournal.Text

/-! ## In messages -/

/-- The code point of a character as lowercase hexadecimal digits. -/
def hexCode (c : Char) : List Char := Nat.toDigits 16 c.toNat

/-- The spelling of one character inside a quoted text. -/
def quotedChar (c : Char) : List Char :=
  match c with
  | '\x00' => ['\\', '0']
  | '\t' => ['\\', 't']
  | '\r' => ['\\', 'r']
  | '\n' => ['\\', 'n']
  | '\\' => ['\\', '\\']
  | '"' => ['\\', '"']
  | c => if isHidden c then ['\\', 'u', '{'] ++ hexCode c ++ ['}'] else [c]

/-- A text in double quotes, as messages show it. -/
def quoted (s : String) : String := String.ofList ('"' :: s.toList.flatMap quotedChar ++ ['"'])

/-! ## In SQL -/

/-- Writes every single quote twice. -/
def doubleQuotes : List Char → List Char
  | [] => []
  | c :: rest => if c = '\'' then '\'' :: '\'' :: doubleQuotes rest else c :: doubleQuotes rest

/-- A text as a literal. -/
def sqlLiteral (s : String) : String := String.ofList ('\'' :: doubleQuotes s.toList ++ ['\''])

end SchemaJournal.Text
