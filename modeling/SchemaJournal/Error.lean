/-!
# Errors

Every operation of the library that can fail gives one of these errors. `Error.message` is their wording.
-/

namespace SchemaJournal

/-- Why an operation failed. -/
inductive Error where
  /-- The references between tables form a cycle through this table. -/
  | circularDependency (table : String)
  /-- A document of the journal cannot be read, or does not belong under its name. -/
  | corruptMigration (path message : String)
  /-- A migration is recorded as applied, and the journal does not have it. -/
  | missingMigrationFile (id : String)
  | duplicateMigration (id : String)
  /-- The database refused a statement of a migration. -/
  | statementExecution (migration statement message : String)
  | schemaLoad (path message : String)
  | validation (message : String)
  | tableExists (name : String)
  | tableNotFound (name : String)
  | connection (message : String)
  | database (message : String)
  | transaction (message : String)
  | configuration (message : String)
  | io (message : String)
  | serialization (message : String)
deriving DecidableEq, Repr, Inhabited

namespace Error

/-- The wording of an error. -/
def message : Error → String
  | .circularDependency table => "Circular dependency detected at table '" ++ table ++ "'"
  | .corruptMigration path message => "Corrupt migration file " ++ path ++ ": " ++ message
  | .missingMigrationFile id => "Migration file not found for applied migration: " ++ id
  | .duplicateMigration id => "Migration " ++ id ++ " already exists"
  | .statementExecution migration statement message =>
    "Failed to execute migration " ++ migration ++ ": " ++ message ++ "\n  statement: " ++ statement
  | .schemaLoad path message => "Failed to load schema from " ++ path ++ ": " ++ message
  | .validation message => "Validation error: " ++ message
  | .tableExists name => "Table " ++ name ++ " already exists"
  | .tableNotFound name => "Table " ++ name ++ " not found"
  | .connection message => "Connection error: " ++ message
  | .database message => "Database error: " ++ message
  | .transaction message => "Transaction error: " ++ message
  | .configuration message => "Configuration error: " ++ message
  | .io message => "IO error: " ++ message
  | .serialization message => "Serialization error: " ++ message

/-- Whether the database refused a statement of a migration. -/
def isStatementFailure : Error → Bool
  | .statementExecution .. => true
  | _ => false

/-- The error that lies behind this one and is told apart from it, as its wording. -/
def cause? : Error → Option String
  | .io message => some message
  | .serialization message => some message
  | _ => none

end Error

end SchemaJournal
