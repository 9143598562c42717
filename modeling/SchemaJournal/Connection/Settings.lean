import SchemaJournal.Connection.Url
import SchemaJournal.Error

/-!
# Connection settings

A database is reached through a URL. It is given as a whole, or it is put together from a host, a port, credentials and
the name of a database. `Settings.validate` checks it before any connection is tried.
-/

namespace SchemaJournal.Connection

/-- How a database is reached. A URL takes precedence over all parts but the number of connections. -/
structure Settings where
  url : Option String
  host : String
  port : UInt16
  username : String
  password : String
  database : String
  maxConnections : UInt32
deriving DecidableEq, Repr

namespace Settings

/-- The settings of a database on this machine. -/
def standard : Settings := ⟨none, "localhost", 5432, "postgres", "postgres", "postgres", 5⟩

/-- The settings of a database that is reached through a URL. -/
def ofUrl (url : String) : Settings := { standard with url := some url }

/-- An error of the settings. -/
def fault (message : String) : Error := .configuration message

/-- The URL that the parts give. -/
def assembled (s : Settings) : Except Error Url := do
  let text := "postgres://" ++ s.host ++ ":" ++ toString s.port.toNat
  let url ← (Url.ofText text).mapError fun e => fault ("Invalid database host: " ++ e.message)
  let some url := url.withUsername s.username | throw (fault "Invalid database username")
  let some url := url.withPassword s.password | throw (fault "Invalid database password")
  return url.withPath s.database

/-- The URL to connect to. -/
def connectionUrl (s : Settings) : Except Error String :=
  match s.url with
  | some url => .ok url
  | none => do return (← s.assembled).text

/-- Checks the settings. -/
def validate (s : Settings) : Except Error Unit := do
  let text ← s.connectionUrl
  let url ← (Url.ofText text).mapError fun e => fault ("Invalid database URL: " ++ e.message)
  if url.scheme ≠ "postgres" ∧ url.scheme ≠ "postgresql" then
    throw (fault ("Unsupported database URL scheme '" ++ url.scheme ++ "', expected postgres://"))
  if (url.host.getD "").isEmpty then throw (fault "Missing host in database URL")
  if s.maxConnections = 0 then throw (fault "max_connections must be at least 1")

end Settings

end SchemaJournal.Connection
