import SchemaJournal.Ddl.Statement
import SchemaJournal.Schema.Order
import SchemaJournal.Text.Quoted

/-!
# From tables to statements

A table becomes a statement that creates it, one unique index for every unique column that is not a key, and one
foreign key for every column with a reference, in this order. Dropping the table undoes all of them.

A default becomes a literal where the type of the column calls for one: strings of string columns as they are, other
values of string columns and all values of JSON columns as JSON. In columns of other types a string is an expression.
-/

namespace SchemaJournal.Ddl

open Json

/-- The clause of a default in a column of a type. -/
def defaultText (type : ColumnType) (value : Value) : String :=
  match value, type with
  | .null, _ => "NULL"
  | value, .json => Text.sqlLiteral value.compact ++ "::jsonb"
  | .string s, .string => Text.sqlLiteral s
  | value, .string => Text.sqlLiteral value.compact
  | .bool true, _ => "TRUE"
  | .bool false, _ => "FALSE"
  | .string s, _ => s
  | .number n, _ => n.text
  | value, _ => Text.sqlLiteral value.compact

/-- The definition of a primary key. Numbers are counted up and identifiers drawn by the database. -/
def keyText : ColumnType → String
  | .number => "INTEGER GENERATED ALWAYS AS IDENTITY PRIMARY KEY"
  | .uuid => "UUID PRIMARY KEY DEFAULT gen_random_uuid()"
  | type => type.sql ++ " PRIMARY KEY"

/-- The definition of a column. -/
def definitionText (c : Column) : String :=
  if c.primary then
    keyText c.type
  else
    c.type.sql ++ (if c.nullable then "" else " NOT NULL") ++
      (match c.default with
      | none => ""
      | some value => " DEFAULT " ++ defaultText c.type value)

/-- The two columns of a table with time stamps. -/
def timeColumns : List ColumnClause :=
  [⟨"created_at", "TIMESTAMP DEFAULT CURRENT_TIMESTAMP"⟩, ⟨"updated_at", "TIMESTAMP DEFAULT CURRENT_TIMESTAMP"⟩]

/-- The columns of a table, the implicit ones at the end. -/
def columnClauses (t : Table) : List ColumnClause :=
  t.columns.map (fun (name, c) => ⟨name, definitionText c⟩) ++ (if t.timestamps then timeColumns else [])

/-- The statement that creates a table. -/
def createTable (t : Table) : Statement := .createTable t.name (columnClauses t)

/-- The unique indexes of a table; a primary key needs none. -/
def uniqueIndexes (t : Table) : List Statement :=
  (t.columns.filter fun (_, c) => c.unique && !c.primary).map fun (name, _) => .createUniqueIndex t.name name

/-- The foreign keys of a table. -/
def foreignKeys (t : Table) : List Statement :=
  t.columns.filterMap fun (name, c) => c.references.map (.addForeignKey t.name name ·)

/-- The statements that set a table up. -/
def setUp (t : Table) : List Statement := createTable t :: uniqueIndexes t ++ foreignKeys t

/-- The statements that take a table away. -/
def tearDown (t : Table) : List Statement := [.dropTable t.name]

/-- The statements of a table in one text. -/
def script (t : Table) : String := "\n".intercalate ((setUp t).map Statement.text)

/-- One script for every table, in the order of their references. -/
def scripts (tables : List Table) : Except Error (List String) := do return (← order tables).map script

end SchemaJournal.Ddl
