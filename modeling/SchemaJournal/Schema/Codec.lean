import SchemaJournal.Schema.Basic
import SchemaJournal.Json.Reader

/-!
# Schemas as documents

Each part of a schema has a written form (`toValue`) and a reader (`read`). Flags that are not set and options that
are absent are not written; a reader takes them for unset and absent when they are left off.

- `Column.read`: the fields in any order, each at most once, unknown ones passed over; a default of null is kept;
- `Table.readColumns`: the columns in document order; a name that repeats is refused after its definition was read.
-/

namespace SchemaJournal

open Json

/-- The member of a flag, written only when it is set. -/
def flagMember (name : String) (flag : Bool) : List (String × Value) := if flag then [(name, .bool true)] else []

namespace ColumnType

/-- The written form. -/
def toValue (t : ColumnType) : Value := .string t.name

/-- Reads a type by its name. -/
def read : Reader ColumnType := readVariant (all.map fun t => (t.name, t))

end ColumnType

namespace DeleteRule

/-- The written form. -/
def toValue (r : DeleteRule) : Value := .string r.sql

/-- Reads a rule by its keywords. -/
def read : Reader DeleteRule := readVariant (all.map fun r => (r.sql, r))

end DeleteRule

/-! ## References -/

namespace Reference

/-- The written form. -/
def toValue (r : Reference) : Value :=
  .object ([("table", .string r.table), ("column", .string r.column)] ++
    (r.onDelete.map fun rule => ("onDelete", rule.toValue)).toList)

/-- The fields read so far. -/
structure Draft where
  table : Option String
  column : Option String
  onDelete : Option (Option DeleteRule)

/-- Reads one field. -/
def Draft.step (limit : Nat) (d : Draft) (name : String) (value : Outline) : Except Problem Draft :=
  match name with
  | "table" => do return { d with table := ← readField name d.table (readString limit value) }
  | "column" => do return { d with column := ← readField name d.column (readString limit value) }
  | "onDelete" => do
    return { d with onDelete := ← readField name d.onDelete (readOptional DeleteRule.read limit value) }
  | _ => do value.skip; return d

/-- The reference, once all fields are read. -/
def Draft.finish (d : Draft) : Except Problem Reference := do
  return ⟨← required "table" d.table, ← required "column" d.column, d.onDelete.join⟩

/-- Reads the fields in order. -/
def ofItems (limit : Nat) (items : Items) : Except Problem Reference := do
  let missing (n : Nat) : Problem := .invalidLength n "ColumnReference" 3
  let (some table, items) ← nextItem (readString limit) items | throw (missing 0)
  let (some column, items) ← nextItem (readString limit) items | throw (missing 1)
  let (onDelete, items) ← nextItem (readOptional DeleteRule.read limit) items
  endItems items
  return ⟨table, column, onDelete.join⟩

/-- Reads a reference. -/
def read : Reader Reference :=
  readRecord "ColumnReference" ofItems fun limit members => do
    (← foldMembers (Draft.step limit) ⟨none, none, none⟩ members).finish

end Reference

/-! ## Columns -/

namespace Column

/-- The written form. -/
def toValue (c : Column) : Value :=
  .object ([("type", c.type.toValue)] ++ flagMember "nullable" c.nullable ++ flagMember "unique" c.unique ++
    flagMember "primary" c.primary ++ (c.default.map fun value => ("default", value)).toList ++
    (c.references.map fun reference => ("references", reference.toValue)).toList)

/-- The fields read so far. -/
structure Draft where
  type : Option ColumnType
  nullable : Option Bool
  unique : Option Bool
  primary : Option Bool
  default : Option Value
  references : Option (Option Reference)

/-- Reads one field. -/
def Draft.step (limit : Nat) (d : Draft) (name : String) (value : Outline) : Except Problem Draft :=
  match name with
  | "type" => do return { d with type := ← readField name d.type (ColumnType.read limit value) }
  | "nullable" => do return { d with nullable := ← readField name d.nullable (readBool limit value) }
  | "unique" => do return { d with unique := ← readField name d.unique (readBool limit value) }
  | "primary" => do return { d with primary := ← readField name d.primary (readBool limit value) }
  | "default" => do return { d with default := ← readField name d.default (Value.read limit value) }
  | "references" => do
    return { d with references := ← readField name d.references (readOptional Reference.read limit value) }
  | _ => do value.skip; return d

/-- The column, once all fields are read. -/
def Draft.finish (d : Draft) : Except Problem Column := do
  return ⟨← required "type" d.type, d.nullable.getD false, d.unique.getD false, d.primary.getD false, d.default,
    d.references.join⟩

/-- Reads the fields in order. -/
def ofItems (limit : Nat) (items : Items) : Except Problem Column := do
  let (some type, items) ← nextItem (ColumnType.read limit) items | throw (.invalidLength 0 "ColumnDefinition" 6)
  let (nullable, items) ← nextItem (readBool limit) items
  let (unique, items) ← nextItem (readBool limit) items
  let (primary, items) ← nextItem (readBool limit) items
  let (default, items) ← nextItem (Value.read limit) items
  let (references, items) ← nextItem (readOptional Reference.read limit) items
  endItems items
  return ⟨type, nullable.getD false, unique.getD false, primary.getD false, default, references.join⟩

/-- Reads a column. -/
def read : Reader Column :=
  readRecord "ColumnDefinition" ofItems fun limit members => do
    (← foldMembers (Draft.step limit) ⟨none, none, none, none, none, none⟩ members).finish

end Column

/-! ## Tables -/

namespace Table

/-- The written form of columns. -/
def columnsToValue (columns : List (String × Column)) : Value :=
  .object (columns.map fun (name, c) => (name, c.toValue))

/-- The written form. -/
def toValue (t : Table) : Value :=
  .object ([("name", .string t.name), ("columns", columnsToValue t.columns)] ++ flagMember "timestamps" t.timestamps)

/-- Reads one more column; its name must be new. -/
def columnStep (limit : Nat) (done : List (String × Column)) (name : String) (value : Outline) :
    Except Problem (List (String × Column)) := do
  let column ← Column.read limit value
  if done.any (·.1 == name) then throw (.duplicate "column" name) else return done ++ [(name, column)]

/-- Reads the columns of a table. -/
def readColumns : Reader (List (String × Column))
  | limit, .object members => enter limit fun limit => foldMembers (columnStep limit) [] members
  | _, o => .error (o.mismatch "a map of column name to column definition")

/-- The fields read so far. -/
structure Draft where
  name : Option String
  columns : Option (List (String × Column))
  timestamps : Option Bool

/-- Reads one field. -/
def Draft.step (limit : Nat) (d : Draft) (name : String) (value : Outline) : Except Problem Draft :=
  match name with
  | "name" => do return { d with name := ← readField name d.name (readString limit value) }
  | "columns" => do return { d with columns := ← readField name d.columns (readColumns limit value) }
  | "timestamps" => do return { d with timestamps := ← readField name d.timestamps (readBool limit value) }
  | _ => do value.skip; return d

/-- The table, once all fields are read. -/
def Draft.finish (d : Draft) : Except Problem Table := do
  return ⟨← required "name" d.name, ← required "columns" d.columns, d.timestamps.getD false⟩

/-- Reads the fields in order. -/
def ofItems (limit : Nat) (items : Items) : Except Problem Table := do
  let missing (n : Nat) : Problem := .invalidLength n "TableSchema" 3
  let (some name, items) ← nextItem (readString limit) items | throw (missing 0)
  let (some columns, items) ← nextItem (readColumns limit) items | throw (missing 1)
  let (timestamps, items) ← nextItem (readBool limit) items
  endItems items
  return ⟨name, columns, timestamps.getD false⟩

/-- Reads a table. -/
def read : Reader Table :=
  readRecord "TableSchema" ofItems fun limit members => do
    (← foldMembers (Draft.step limit) ⟨none, none, none⟩ members).finish

end Table

/-! ## Schemas -/

namespace Schema

/-- The written form. -/
def toValue (s : Schema) : Value := .object [("tables", .array (s.tables.map Table.toValue))]

/-- Reads one field; only the tables are known. -/
def step (limit : Nat) (tables : Option (List Table)) (name : String) (value : Outline) :
    Except Problem (Option (List Table)) :=
  match name with
  | "tables" => readField name tables (readList Table.read limit value)
  | _ => do value.skip; return tables

/-- Reads the fields in order. -/
def ofItems (limit : Nat) (items : Items) : Except Problem Schema := do
  let (some tables, items) ← nextItem (readList Table.read limit) items | throw (.invalidLength 0 "DatabaseSchema" 1)
  endItems items
  return ⟨tables⟩

/-- Reads a schema. -/
def read : Reader Schema :=
  readRecord "DatabaseSchema" ofItems fun limit members => do
    return ⟨← required "tables" (← foldMembers (step limit) none members)⟩

end Schema

end SchemaJournal
