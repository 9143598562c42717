import SchemaJournal.Schema.Basic
import SchemaJournal.Text.Character

/-!
# Valid schemas

A schema is valid when no table or column has a blank name, no two tables have the same name, and every default suits
the type of its column. `Schema.validate` reports the first violation: table by table, first the table's name, then
its columns in order, name before default, then whether an earlier table has the same name.
-/

namespace SchemaJournal

/-- A rule of valid schemas that is broken. -/
inductive Violation where
  | blankTableName
  | blankColumnName (table : String)
  | unsuitedDefault (table column : String) (type : ColumnType) (value : Json.Value)
  | duplicateTable (name : String)

namespace Violation

/-- The wording of a violation. -/
def message : Violation → String
  | .blankTableName => "Table name cannot be empty"
  | .blankColumnName table => "Table " ++ table ++ " has a column with an empty name"
  | .unsuitedDefault table column type value =>
    "Column " ++ table ++ "." ++ column ++ " of type " ++ type.name ++ " has an incompatible default " ++ value.compact
  | .duplicateTable name => "Duplicate table name: " ++ name

end Violation

/-- Whether a default suits the type of its column. -/
def ColumnType.suits : ColumnType → Json.Value → Bool
  | .boolean, .null => true
  | .boolean, .bool _ => true
  | .boolean, _ => false
  | .number, .null => true
  | .number, .number _ => true
  | .number, .string _ => true
  | .number, _ => false
  | .json, _ => true
  | _, .array _ => false
  | _, .object _ => false
  | _, _ => true

namespace Table

/-- Checks the name and the default of a column. -/
def validateColumn (table : String) (name : String) (column : Column) : Except Violation Unit :=
  if Text.allBlank name then
    .error (.blankColumnName table)
  else
    match column.default with
    | some value =>
      if column.type.suits value then .ok () else .error (.unsuitedDefault table name column.type value)
    | none => .ok ()

/-- Checks a table by itself. -/
def validate (t : Table) : Except Violation Unit :=
  if Text.allBlank t.name then .error .blankTableName
  else t.columns.forM fun (name, column) => validateColumn t.name name column

end Table

namespace Schema

/-- Checks tables that follow tables with these names. -/
def validateAfter (names : List String) : List Table → Except Violation Unit
  | [] => .ok ()
  | t :: rest => do
    t.validate
    if names.contains t.name then throw (.duplicateTable t.name)
    validateAfter (t.name :: names) rest

/-- Checks a schema. -/
def validate (s : Schema) : Except Violation Unit := validateAfter [] s.tables

end Schema

end SchemaJournal
