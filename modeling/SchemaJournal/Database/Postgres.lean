import SchemaJournal.Database.Pool

/-!
# PostgreSQL

What becomes of errors, values and rows on their way from a PostgreSQL server to the library.

- `DriverError`: what goes wrong between the library and the server, and its wording;
- `sent`, `received`: values on their way to the server and back, where moments lose what is below a microsecond;
- `decodeRows`: rows with the column types of the server;
- `Postgres.pool`: the calls of a server through a pool that can be closed.
-/

namespace SchemaJournal.Database

/-! ## Errors of the driver -/

/-- What goes wrong between the library and a server. -/
inductive DriverError where
  /-- The server refused. -/
  | refused (message : String)
  | poolClosed
  /-- No connection came about in time. -/
  | timedOut
  /-- What is asked of the driver makes no sense. -/
  | configuration (message : String)
  /-- The way to the server is broken. -/
  | communication (message : String)
  | protocol (message : String)
  | columnNotFound (name : String)
  | rowNotFound
  /-- A value of a type that is no text, in a column with this index. -/
  | noText (index : Nat) (type : String)

namespace DriverError

/-- The wording of an error. -/
def message : DriverError → String
  | .refused message => "error returned from database: " ++ message
  | .poolClosed => "attempted to acquire a connection on a closed pool"
  | .timedOut => "pool timed out while waiting for an open connection"
  | .configuration message => "error with configuration: " ++ message
  | .communication message => "error communicating with database: " ++ message
  | .protocol message => "encountered unexpected or invalid data: " ++ message
  | .columnNotFound name => "no column found for name: " ++ name
  | .rowNotFound => "no rows returned by a query that expected to return at least one row"
  | .noText index type =>
    "error occurred while decoding column " ++ toString index ++
      ": mismatched types; Rust type `core::option::Option<alloc::string::String>` (as SQL type `TEXT`) " ++
      "is not compatible with SQL type `" ++ type ++ "`"

/-- The error of the library that tells of an error of the driver and nothing else. -/
def toError (e : DriverError) : Error := .database e.message

/-- What a server says when it fails with an error: the bare message of a database error, else the full wording. -/
def ofServer : Error → DriverError
  | .database message => .refused message
  | other => .refused other.message

end DriverError

/-! ## Values on their way -/

/-- The start of 2000, from which moments are counted on their way to a server. -/
def epoch : Int := 946684800000000000

/-- A value as a server gets it. A moment is counted in microseconds from the start of 2000, and a part of a microsecond
is dropped on either side of it. -/
def sent : Value → Value
  | .timestamp m => .timestamp (.ofNanoseconds (epoch + 1000 * (m.toNanoseconds - epoch).tdiv 1000))
  | other => other

/-- A value as a server gives it. The moment of a row has full microseconds. -/
def received : Value → Value
  | .timestamp m => .timestamp (.ofNanoseconds (1000 * (m.toNanoseconds / 1000)))
  | other => other

/-! ## Rows with types -/

/-- The types of the columns that a server sends. -/
inductive SqlType where
  | bool
  | int2
  | int4
  | int8
  | text
  | varchar
  | name
  | bpchar
  | timestamp
  | timestamptz
  | uuid
  | json
  | jsonb
  | numeric
  | float8
  | date
deriving DecidableEq, Repr

namespace SqlType

/-- The name of a type in messages. -/
def title : SqlType → String
  | .bool => "BOOL"
  | .int2 => "INT2"
  | .int4 => "INT4"
  | .int8 => "INT8"
  | .text => "TEXT"
  | .varchar => "VARCHAR"
  | .name => "NAME"
  | .bpchar => "CHAR"
  | .timestamp => "TIMESTAMP"
  | .timestamptz => "TIMESTAMPTZ"
  | .uuid => "UUID"
  | .json => "JSON"
  | .jsonb => "JSONB"
  | .numeric => "NUMERIC"
  | .float8 => "FLOAT8"
  | .date => "DATE"

/-- Whether the library has values for a type. -/
def isReadable : SqlType → Bool
  | .uuid | .json | .jsonb | .numeric | .float8 | .date => false
  | _ => true

end SqlType

/-- The cell in a column of a type; the null of every type can be read. -/
def decodeCell (index : Nat) (type : SqlType) (value : Value) : Except Error Value :=
  if value.isNull || type.isReadable then .ok (received value)
  else
    .error (.database
      ("Failed to decode " ++ type.title ++ " value: " ++ (DriverError.noText index type.title).message))

/-- A row of the server: the value of every column that it has one for. -/
abbrev ServerRow := List (String × Value)

/-- Rows under given columns. A column for which a row has no value is null in it. -/
def decodeRows (columns : List (String × SqlType)) (rows : List ServerRow) : List Row :=
  rows.map fun row =>
    columns.zipIdx.map fun ((name, type), index) => (name, decodeCell index type ((row.lookup name).getD .null))

/-! ## The pool -/

/-- A server reached through a pool of connections. -/
structure Postgres (σ : Type) where
  server : σ
  closed : Bool

namespace Postgres

/-- Works on the server, and restates its errors. -/
def onServer (wrap : DriverError → Error) (act : Action σ α) : Action (Postgres σ) α :=
  Attempt.within (·.server) (fun server p => { p with server }) (act.restate fun e => wrap (.ofServer e))

/-- Takes a connection out of the pool, which must not be closed, and works on the server. -/
def acquire (wrap : DriverError → Error) (act : Action σ α) : Action (Postgres σ) α := do
  if (← get).closed then throw (wrap .poolClosed)
  onServer wrap act

/-- A database error with some words before it. -/
def databaseError (words : String) (e : DriverError) : Error := .database (words ++ e.message)

/-- A transaction error with some words before it. -/
def transactionError (words : String) (e : DriverError) : Error := .transaction (words ++ e.message)

/-- The calls of a server, with the parameters that it gets. Closing the pool is no call to the server. -/
def pool (inner : Pool σ) : Pool (Postgres σ) where
  execute sql params := acquire (databaseError "Query execution failed: ") (inner.execute sql (params.map sent))
  fetch sql params := acquire (databaseError "Query fetch failed: ") (inner.fetch sql (params.map sent))
  begin := acquire (transactionError "Failed to start transaction: ") inner.begin
  executeInside sql params := onServer DriverError.toError (inner.executeInside sql (params.map sent))
  commit := onServer (transactionError "Transaction commit failed: ") inner.commit
  rollback := onServer (transactionError "Transaction rollback failed: ") inner.rollback
  close := modify fun p => { p with closed := true }

end Postgres

end SchemaJournal.Database
