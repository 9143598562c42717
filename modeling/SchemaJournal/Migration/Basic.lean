import SchemaJournal.Json.Reader

/-!
# Migrations

A migration is a named, dated pair of statement lists: `up` applies it, `down` reverts it. Its document has five
fields, all of them required.
-/

namespace SchemaJournal

/-- A migration; `timestamp` counts milliseconds. -/
structure Migration where
  id : String
  name : String
  timestamp : Int64
  up : List String
  down : List String
deriving DecidableEq, Repr, Inhabited

namespace Migration

/-- The id of a migration: its time, then its name. -/
def idOf (timestamp : Int64) (name : String) : String := toString timestamp.toInt ++ "_" ++ name

/-- A migration with the id that its time and name give. -/
def new (name : String) (timestamp : Int64) (up down : List String) : Migration :=
  ⟨idOf timestamp name, name, timestamp, up, down⟩

/-- Earlier migrations come first; at the same time the smaller id does. -/
def before (a b : Migration) : Bool := a.timestamp < b.timestamp || (a.timestamp == b.timestamp && a.id ≤ b.id)

/-! ## Documents -/

open Json

/-- A list of strings as a value. -/
def stringsToValue (strings : List String) : Value := .array (strings.map .string)

/-- An integer of 64 bits as a value. -/
def integerToValue (n : Int64) : Value := .number (.integer n.toInt (by
  have := Int64.le_toInt n
  have := Int64.toInt_lt n
  simp only [leastSigned, unsignedBound]
  omega))

/-- The written form. -/
def toValue (m : Migration) : Value :=
  .object [("id", .string m.id), ("name", .string m.name), ("timestamp", integerToValue m.timestamp),
    ("up", stringsToValue m.up), ("down", stringsToValue m.down)]

/-- The fields read so far. -/
structure Draft where
  id : Option String
  name : Option String
  timestamp : Option Int64
  up : Option (List String)
  down : Option (List String)

/-- Reads one field. -/
def Draft.step (limit : Nat) (d : Draft) (name : String) (value : Outline) : Except Problem Draft :=
  match name with
  | "id" => do return { d with id := ← readField name d.id (readString limit value) }
  | "name" => do return { d with name := ← readField name d.name (readString limit value) }
  | "timestamp" => do return { d with timestamp := ← readField name d.timestamp (readInt64 limit value) }
  | "up" => do return { d with up := ← readField name d.up (readList readString limit value) }
  | "down" => do return { d with down := ← readField name d.down (readList readString limit value) }
  | _ => do value.skip; return d

/-- The migration, once all fields are read. -/
def Draft.finish (d : Draft) : Except Problem Migration := do
  return ⟨← required "id" d.id, ← required "name" d.name, ← required "timestamp" d.timestamp, ← required "up" d.up,
    ← required "down" d.down⟩

/-- Reads the fields in order. -/
def ofItems (limit : Nat) (items : Items) : Except Problem Migration := do
  let missing (n : Nat) : Problem := .invalidLength n "Migration" 5
  let (some id, items) ← nextItem (readString limit) items | throw (missing 0)
  let (some name, items) ← nextItem (readString limit) items | throw (missing 1)
  let (some timestamp, items) ← nextItem (readInt64 limit) items | throw (missing 2)
  let (some up, items) ← nextItem (readList readString limit) items | throw (missing 3)
  let (some down, items) ← nextItem (readList readString limit) items | throw (missing 4)
  endItems items
  return ⟨id, name, timestamp, up, down⟩

/-- Reads a migration. -/
def read : Reader Migration :=
  readRecord "Migration" ofItems fun limit members => do
    (← foldMembers (Draft.step limit) ⟨none, none, none, none, none⟩ members).finish

end Migration

end SchemaJournal
