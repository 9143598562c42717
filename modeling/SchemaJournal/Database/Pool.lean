import SchemaJournal.Action
import SchemaJournal.Database.Value

/-!
# Database pools

A pool is all that the library asks of a database: statements and queries outside of a transaction, and one transaction
at a time with statements inside it. The state is whatever the database is made of; a call may fail and still change it.

A query is answered with rows, which have named columns. A column whose value cannot be read holds the error that
reading it gives. Rows of the tracking table are read as records.
-/

namespace SchemaJournal.Database

/-! ## Rows -/

/-- A row: its columns in order. -/
abbrev Row := List (String × Except Error Value)

namespace Row

/-- A row of readable values. -/
def ofValues (columns : List (String × Value)) : Row := columns.map fun (name, value) => (name, .ok value)

/-- The value in a column. -/
def get (row : Row) (name : String) : Except Error Value :=
  match row.lookup name with
  | some cell => cell
  | none => .error (.database ("Column '" ++ name ++ "' not found"))

end Row

/-- A row of the tracking table: a migration that was applied, and when. -/
structure Record where
  id : String
  name : String
  timestamp : Int64
  executedAt : Moment
deriving DecidableEq, Inhabited

namespace Record

/-- Reads a record. -/
def ofRow (row : Row) : Except Error Record := do
  let id ← (← row.get "id").toText "id"
  let name ← (← row.get "name").toText "name"
  let timestamp ← (← row.get "timestamp").toInteger "timestamp"
  let executedAt ← (← row.get "executed_at").toMoment "executed_at"
  return ⟨id, name, timestamp, executedAt⟩

/-- A record as a row. -/
def toRow (r : Record) : Row :=
  Row.ofValues [("id", .text r.id), ("name", .text r.name), ("timestamp", .int8 r.timestamp),
    ("executed_at", .timestamp r.executedAt)]

/-- A record that is written as a row is read back. -/
theorem ofRow_toRow (r : Record) : ofRow r.toRow = .ok r := rfl

/-- Earlier records come first; at the same time the smaller id does. -/
def before (a b : Record) : Bool := a.timestamp < b.timestamp || (a.timestamp == b.timestamp && a.id ≤ b.id)

end Record

/-! ## Pools -/

/-- A statement with its parameters. -/
abbrev Prepared := String × List Value

/-- The calls that a database answers. -/
structure Pool (σ : Type) where
  /-- Executes a statement outside of a transaction; how many rows it affected. -/
  execute : String → List Value → Action σ Nat
  /-- Executes a query outside of a transaction. -/
  fetch : String → List Value → Action σ (List Row)
  /-- Starts a transaction. -/
  begin : Action σ Unit
  /-- Executes a statement inside the transaction. -/
  executeInside : String → List Value → Action σ Nat
  /-- Ends the transaction and keeps its effects. -/
  commit : Action σ Unit
  /-- Ends the transaction without its effects. -/
  rollback : Action σ Unit
  /-- Closes the pool. -/
  close : Action σ Unit

end SchemaJournal.Database
