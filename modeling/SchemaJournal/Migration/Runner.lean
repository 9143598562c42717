import SchemaJournal.Database.Pool
import SchemaJournal.Migration.Build
import SchemaJournal.Migration.Journal
import SchemaJournal.World

/-!
# Running migrations

A runner applies the migrations of a journal to a database and reverts them. Every migration runs in a transaction of
its own, together with the statement that records it or removes its record, so that it takes effect as a whole or not
at all. The records are kept in a table of the database, the tracking table.

- `Tracking` has the statements about that table;
- `Runner.up` applies what is pending, `Runner.down` reverts the latest migration that is applied;
- `Runner.status` tells which migrations are applied;
- `Runner.clear` drops the tables of a schema.
-/

namespace SchemaJournal

open Database

/-! ## Statements about the tracking table -/

namespace Tracking

/-- Creates the table. -/
def createSql (table : String) : String :=
  "CREATE TABLE IF NOT EXISTS " ++ table ++ " (\n    id VARCHAR(255) PRIMARY KEY,\n    name VARCHAR(255) NOT NULL,\n" ++
    "    timestamp BIGINT NOT NULL,\n    executed_at TIMESTAMP DEFAULT CURRENT_TIMESTAMP\n);"

/-- Records a migration as applied. -/
def insertion (table : String) (m : Migration) : Prepared :=
  ("INSERT INTO " ++ table ++ " (id, name, timestamp) VALUES ($1, $2, $3)",
    [.text m.id, .text m.name, .int8 m.timestamp])

/-- Removes the record of a migration. -/
def removal (table id : String) : Prepared := ("DELETE FROM " ++ table ++ " WHERE id = $1", [.text id])

/-- What is asked of every record. -/
def selection (table : String) : String := "SELECT id, name, timestamp, executed_at FROM " ++ table

/-- Asks for all records, oldest first. -/
def appliedSql (table : String) : String := selection table ++ " ORDER BY timestamp ASC, id ASC"

/-- Asks for the latest record. -/
def latestSql (table : String) : String := selection table ++ " ORDER BY timestamp DESC, id DESC LIMIT 1"

end Tracking

/-! ## Runners -/

/-- A journal and the calls of the database that its migrations are for. -/
structure Runner (σ : Type) where
  journal : Journal
  pool : Pool σ

/-- What applying the pending migrations did. -/
structure UpReport where
  /-- The ids of the migrations that were applied, in order. -/
  applied : List String
  /-- How many migrations were applied before. -/
  skipped : Nat
  /-- How long it took, in milliseconds. -/
  elapsed : Int64
deriving DecidableEq, Repr

namespace Runner

open World

/-! ## The tracking table -/

/-- Makes sure that the tracking table is there. -/
def ensureTracking (r : Runner σ) : Action (World σ) Unit := do
  let wrap (e : Error) : Error := .database ("Failed to create migrations table: " ++ e.message)
  let _ ← (onDatabase (r.pool.execute (Tracking.createSql r.journal.table) [])).restate wrap

/-- The records of all applied migrations, oldest first. -/
def applied (r : Runner σ) : Action (World σ) (List Record) := do
  let rows ← onDatabase (r.pool.fetch (Tracking.appliedSql r.journal.table) [])
  Attempt.ofExcept (rows.mapM Record.ofRow)

/-- The record of the latest applied migration. -/
def latest (r : Runner σ) : Action (World σ) (Option Record) := do
  let rows ← onDatabase (r.pool.fetch (Tracking.latestSql r.journal.table) [])
  match rows with
  | [] => return none
  | row :: _ => some <$> Attempt.ofExcept (Record.ofRow row)

/-- Makes the directory of the journal and the tracking table. -/
def prepare (r : Runner σ) : Action (World σ) Unit := do
  onFiles ((FileTree.createDirectories r.journal.directory).restate FileError.toError)
  r.ensureTracking

/-! ## Transactions -/

/-- Abandons the transaction. That this failed is only told. -/
def abandon (r : Runner σ) : Action (World σ) Unit := do
  match ← (onDatabase r.pool.rollback).outcome with
  | .ok () => return ()
  | .error e => tell .error ("Rollback failed: " ++ e.message)

/-- Executes statements inside the transaction. The first one that fails ends it, and its error is restated. -/
def executeAll (r : Runner σ) (announce : String → Action (World σ) Unit) (wrap : String → Error → Error) :
    List Prepared → Action (World σ) Unit
  | [] => return ()
  | (sql, params) :: rest => do
    announce sql
    match ← (onDatabase (r.pool.executeInside sql params)).outcome with
    | .ok _ => r.executeAll announce wrap rest
    | .error e =>
      r.abandon
      throw (wrap sql e)

/-- The error of a statement of a migration. -/
def statementError (m : Migration) (sql : String) (e : Error) : Error :=
  .statementExecution m.id sql (match e with
    | .database message => message
    | other => other.message)

/-- Executes statements of a migration and then the one that keeps its record, all in one transaction. -/
def runUnit (r : Runner σ) (m : Migration) (statements : List String) (bookkeeping : Prepared) :
    Action (World σ) Unit := do
  onDatabase r.pool.begin
  r.executeAll (fun _ => return ()) (statementError m) (statements.map (·, []) ++ [bookkeeping])
  (onDatabase r.pool.commit).restate fun e =>
    .transaction ("Failed to commit migration " ++ m.id ++ ": " ++ e.message)

/-! ## Operations -/

/-- Applies a migration. -/
def apply (r : Runner σ) (m : Migration) : Action (World σ) Unit := do
  tell .info ("Running migration: " ++ m.name)
  r.runUnit m m.up (Tracking.insertion r.journal.table m)
  tell .info ("Migration " ++ m.name ++ " completed")

/-- Applies migrations in order. -/
def applyAll (r : Runner σ) : List Migration → Action (World σ) Unit
  | [] => return ()
  | m :: rest => do
    r.apply m
    r.applyAll rest

/-- The migrations whose ids are not among the records. -/
def pending (records : List Record) (migrations : List Migration) : List Migration :=
  migrations.filter fun m => !records.any (·.id == m.id)

/-- Applies all pending migrations in the order of the journal. -/
def up (r : Runner σ) : Action (World σ) UpReport := do
  let start ← now
  r.ensureTracking
  let migrations ← readFiles r.journal.list
  let records ← r.applied
  let todo := pending records migrations
  r.applyAll todo
  return ⟨todo.map (·.id), migrations.length - todo.length, (← now) - start⟩

/-- Reverts the latest applied migration; its id, or none if no migration is applied. -/
def down (r : Runner σ) : Action (World σ) (Option String) := do
  r.ensureTracking
  match ← r.latest with
  | none =>
    tell .info "No migrations to rollback"
    return none
  | some record =>
    match ← readFiles (r.journal.find · record.id) with
    | none => throw (.missingMigrationFile record.id)
    | some m =>
      tell .info ("Rolling back migration: " ++ m.name)
      r.runUnit m m.down (Tracking.removal r.journal.table m.id)
      tell .info ("Migration " ++ m.name ++ " rolled back successfully")
      return some m.id

/-- Tells of every record that has no migration. -/
def tellOrphans (r : Runner σ) (migrations : List Migration) : List Record → Action (World σ) Unit
  | [] => return ()
  | record :: rest => do
    if !migrations.any (·.id == record.id) then
      tell .warn ("Applied migration " ++ record.id ++ " has no migration file in " ++ r.journal.directory.text)
    r.tellOrphans migrations rest

/-- Every migration of the journal, and when it was applied if it was. -/
def status (r : Runner σ) : Action (World σ) (List (Migration × Option Moment)) := do
  r.ensureTracking
  let migrations ← readFiles r.journal.list
  let records ← r.applied
  r.tellOrphans migrations records
  return migrations.map fun m => (m, (records.find? (·.id == m.id)).map (·.executedAt))

/-- Drops the tables of a schema in one transaction, each before the tables it references; their names. -/
def clear (r : Runner σ) (schema : Schema) : Action (World σ) (List String) := do
  let ordered ← Attempt.ofExcept (order schema.tables)
  let names := ordered.reverse.map (·.name)
  onDatabase r.pool.begin
  r.executeAll (fun sql => tell .info ("Executing: " ++ sql)) (fun _ e => e)
    (names.map fun name => ((Ddl.Statement.dropTableCascade name).text, []))
  (onDatabase r.pool.commit).restate fun e => .transaction ("Failed to commit clear: " ++ e.message)
  return names

end Runner

/-! ## New migrations -/

/-- Builds the migration of some tables and adds it to the journal. -/
def Journal.add (j : Journal) (name : String) (tables : List Table) : Action (World σ) Migration := do
  let m ← Attempt.ofExcept (Migration.build name tables (← World.now))
  let _ ← World.onFiles (j.save m)
  return m

end SchemaJournal
