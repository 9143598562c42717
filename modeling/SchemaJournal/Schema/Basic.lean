import SchemaJournal.Json.Value

/-!
# Schemas

A schema declares tables, a table its columns in order. A column has a type, a few flags, and it may have a default,
which is any JSON value, and a reference to a column of a table.
-/

namespace SchemaJournal

/-- The type of a column. -/
inductive ColumnType where
  | string
  | number
  | boolean
  | date
  | json
  | uuid
deriving DecidableEq, Repr, Inhabited

namespace ColumnType

/-- The name of a type in a document. -/
def name : ColumnType → String
  | .string => "string"
  | .number => "number"
  | .boolean => "boolean"
  | .date => "date"
  | .json => "json"
  | .uuid => "uuid"

/-- All types, in the order in which they are listed to a reader. -/
def all : List ColumnType := [.string, .number, .boolean, .date, .json, .uuid]

/-- The type that the database stores. -/
def sql : ColumnType → String
  | .string => "VARCHAR(255)"
  | .number => "INTEGER"
  | .boolean => "BOOLEAN"
  | .date => "TIMESTAMP"
  | .json => "JSONB"
  | .uuid => "UUID"

end ColumnType

/-- What becomes of a row when the row it references is deleted. -/
inductive DeleteRule where
  | cascade
  | setNull
  | restrict
deriving DecidableEq, Repr, Inhabited

namespace DeleteRule

/-- The keywords of a rule, in a document as in a statement. -/
def sql : DeleteRule → String
  | .cascade => "CASCADE"
  | .setNull => "SET NULL"
  | .restrict => "RESTRICT"

/-- All rules, in the order in which they are listed to a reader. -/
def all : List DeleteRule := [.cascade, .setNull, .restrict]

end DeleteRule

/-- The column that a foreign key references. -/
structure Reference where
  table : String
  column : String
  onDelete : Option DeleteRule
deriving DecidableEq, Repr, Inhabited

/-- The definition of a column. A default of null is not the same as no default. -/
structure Column where
  type : ColumnType
  nullable : Bool
  unique : Bool
  primary : Bool
  default : Option Json.Value
  references : Option Reference
deriving Inhabited

/-- A column of a type, with nothing else declared. -/
def Column.ofType (type : ColumnType) : Column := ⟨type, false, false, false, none, none⟩

/-- A table: its columns in order, and whether it has the two implicit time columns. -/
structure Table where
  name : String
  columns : List (String × Column)
  timestamps : Bool
deriving Inhabited

namespace Table

/-- A table without columns. -/
def named (name : String) : Table := ⟨name, [], false⟩

/-- Appends a column. -/
def withColumn (t : Table) (name : String) (column : Column) : Table :=
  { t with columns := t.columns ++ [(name, column)] }

/-- The definition of the first column with this name. -/
def column? (t : Table) (name : String) : Option Column := t.columns.lookup name

/-- The references of the columns, in order. -/
def references (t : Table) : List Reference := t.columns.filterMap (·.2.references)

/-- The tables that the columns reference, in order, each once. -/
def referencedTables (t : Table) : List String := (t.references.map (·.table)).eraseDups

end Table

/-- A schema: its tables in order. -/
structure Schema where
  tables : List Table
deriving Inhabited

namespace Schema

/-- The schema without tables. -/
def empty : Schema := ⟨[]⟩

/-- The first table with this name. -/
def table? (s : Schema) (name : String) : Option Table := s.tables.find? (·.name == name)

end Schema

end SchemaJournal
