import SchemaJournal.Migration.Basic
import SchemaJournal.Ddl.Compile

/-!
# Building migrations

The migration of a list of tables sets the tables up in the order of their references and takes them away in the
opposite order. Its name is made of letters, digits, `_` and `-`, so that it can stand in the name of a file.
-/

namespace SchemaJournal.Migration

/-- What is wrong with the name of a migration. -/
inductive NameFault where
  | empty
  | invalid (name : String) (c : Char)
deriving DecidableEq, Repr

/-- The wording of a fault. -/
def NameFault.message : NameFault → String
  | .empty => "Migration name cannot be empty"
  | .invalid name c =>
    "Migration name '" ++ name ++ "' contains invalid character '" ++ c.toString ++
      "'; use letters, digits, '_' or '-'"

/-- The characters of a name. -/
def isNameChar (c : Char) : Bool := c.isAlphanum || c == '_' || c == '-'

/-- Checks a name; the first character that it may not have is the one reported. -/
def checkName (name : String) : Except NameFault Unit :=
  if name.isEmpty then .error .empty
  else
    match name.toList.find? fun c => !isNameChar c with
    | some c => .error (.invalid name c)
    | none => .ok ()

/-- The statements that set tables up, in the given order. -/
def upStatements (tables : List Table) : List Ddl.Statement := tables.flatMap Ddl.setUp

/-- The statements that take tables away, the last table first. -/
def downStatements (tables : List Table) : List Ddl.Statement := tables.reverse.flatMap Ddl.tearDown

/-- The migration of tables, named and dated. -/
def build (name : String) (tables : List Table) (timestamp : Int64) : Except Error Migration := do
  (checkName name).mapError fun fault => .validation fault.message
  let ordered ← order tables
  return new name timestamp ((upStatements ordered).map Ddl.Statement.text)
    ((downStatements ordered).map Ddl.Statement.text)

end SchemaJournal.Migration
