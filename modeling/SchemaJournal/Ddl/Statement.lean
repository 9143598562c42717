import SchemaJournal.Schema.Basic

/-!
# Statements that define data

The statements that create and drop tables, as trees, and their text. The names of tables and columns go into the text
as they are.
-/

namespace SchemaJournal.Ddl

/-- A column of a table that is created: its name, and its type with all that follows. -/
structure ColumnClause where
  name : String
  definition : String
deriving DecidableEq, Repr

/-- The text of a column. -/
def ColumnClause.text (c : ColumnClause) : String := c.name ++ " " ++ c.definition

/-- A statement. -/
inductive Statement where
  | createTable (table : String) (columns : List ColumnClause)
  | createUniqueIndex (table column : String)
  | addForeignKey (table column : String) (target : Reference)
  | dropTable (table : String)
  /-- Also removes what depends on the table. -/
  | dropTableCascade (table : String)
deriving DecidableEq, Repr

namespace Statement

/-- What happens when a referenced row is deleted, if the reference says so. -/
def onDeleteText : Option DeleteRule → String
  | none => ""
  | some rule => " ON DELETE " ++ rule.sql

/-- The text of a statement. -/
def text : Statement → String
  | .createTable table columns =>
    "CREATE TABLE " ++ table ++ " (\n    " ++ ",\n    ".intercalate (columns.map ColumnClause.text) ++ "\n);"
  | .createUniqueIndex table column =>
    "CREATE UNIQUE INDEX " ++ table ++ "_" ++ column ++ "_unique ON " ++ table ++ "(" ++ column ++ ");"
  | .addForeignKey table column target =>
    "ALTER TABLE " ++ table ++ " ADD CONSTRAINT fk_" ++ table ++ "_" ++ column ++ " FOREIGN KEY (" ++ column ++
      ") REFERENCES " ++ target.table ++ "(" ++ target.column ++ ")" ++ onDeleteText target.onDelete ++ ";"
  | .dropTable table => "DROP TABLE IF EXISTS " ++ table ++ ";"
  | .dropTableCascade table => "DROP TABLE IF EXISTS " ++ table ++ " CASCADE;"

end Statement

end SchemaJournal.Ddl
