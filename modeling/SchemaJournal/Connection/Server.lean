import SchemaJournal.Connection.Settings
import SchemaJournal.Connection.Target
import SchemaJournal.Migration.Runner

/-!
# Servers

A server takes connections to a target and answers calls then. `Settings.connect` checks the settings first.
-/

namespace SchemaJournal

open Database

/-- A database that can be connected to. -/
structure Connection.Server (σ : Type) where
  /-- Connects to a target. -/
  connect : Connection.Target → Action σ Unit
  /-- The calls of the database. -/
  pool : Pool σ

namespace Connection

/-- The error of a connection that did not come about. -/
def connectError (e : DriverError) : Error := .connection ("Failed to connect to database: " ++ e.message)

/-- A PostgreSQL server that listens at a socket. Its connections are opened by `dial`, and its calls are those of
`inner`. -/
def Server.postgres (socket : String) (dial : Action σ Unit) (inner : Pool σ) : Server (Postgres σ) where
  connect target :=
    if target.socket = some socket then Postgres.onServer connectError dial else throw (connectError target.silence)
  pool := Postgres.pool inner

/-- A server that no connection reaches. -/
def Server.unreachable : Server σ where
  connect target := throw (connectError target.silence)
  pool := {
    execute := fun _ _ => throw (Postgres.databaseError "Query execution failed: " .timedOut)
    fetch := fun _ _ => throw (Postgres.databaseError "Query fetch failed: " .timedOut)
    begin := throw (Postgres.transactionError "Failed to start transaction: " .timedOut)
    executeInside := fun _ _ => throw DriverError.timedOut.toError
    commit := throw (Postgres.transactionError "Transaction commit failed: " .timedOut)
    rollback := throw (Postgres.transactionError "Transaction rollback failed: " .timedOut)
    close := return () }

/-- Connects to a server, if the settings are valid. -/
def Settings.connect (s : Settings) (server : Server σ) : Action σ (Pool σ) := do
  Attempt.ofExcept s.validate
  let url ← Attempt.ofExcept s.connectionUrl
  server.connect (← Attempt.ofExcept ((Target.ofText url).mapError connectError))
  return server.pool

end Connection

/-- A runner for a journal over a connection to a server. -/
def Runner.connect (journal : Journal) (settings : Connection.Settings) (server : Connection.Server σ) :
    Action (World σ) (Runner σ) := do
  return ⟨journal, ← World.onDatabase (settings.connect server)⟩

end SchemaJournal
