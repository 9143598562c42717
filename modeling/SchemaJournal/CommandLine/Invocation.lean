import SchemaJournal.CommandLine.Arguments
import SchemaJournal.Connection.Settings
import SchemaJournal.Migration.Journal

/-!
# Invocations

An invocation is what a command line asks for: a command, and where the database, the journal and the schema document
are. An option that is not given is taken from the environment, and else it has a default. Of several levels that give
an option the deepest one counts.
-/

namespace SchemaJournal.CommandLine

/-- The commands. -/
inductive Command where
  | init
  | create (name : String)
  | up
  | down
  | clear
  | status
  | schemaSql
  | schemaExample (force : Bool)
deriving DecidableEq, Repr

/-- What a command tries to do. -/
def Command.action : Command → String
  | .init => "initialize database"
  | .create _ => "create migration"
  | .up => "run migrations"
  | .down => "rollback migration"
  | .clear => "clear the database"
  | .status => "read migration status"
  | .schemaSql => "compile schema"
  | .schemaExample _ => "write example schema"

/-- What a command line asks for. -/
structure Invocation where
  command : Command
  connection : Connection.Settings
  journal : Journal
  schemaPath : Path
deriving DecidableEq, Repr

/-! ## Commands -/

/-- The level of the program itself. -/
def programLevel : Level := ⟨["init", "create", "up", "down", "clear", "status", "schema", "help"], 0, false, true⟩

/-- The level of the tools for schema documents. -/
def schemaLevel : Level := ⟨["sql", "example", "help"], 0, false, false⟩

/-- The level of a command that takes words, and perhaps the switch to force it. -/
def commandLevel (words : Nat) (takesForce : Bool) : Level := ⟨[], words, takesForce, false⟩

/-- The commands that help can be asked for, by the names that lead to them. -/
def isHelpTopic : List String → Bool
  | [] => true
  | [name] => programLevel.commands.contains name
  | ["schema", name] => schemaLevel.commands.contains name
  | _ => false

/-- Reads a request for help. -/
def readHelp (topic : List String) : Except Halt α := .error (if isHelpTopic topic then .help else .usage)

/-- Reads a command at its own level. -/
def readCommand (words : Nat) (takesForce : Bool) (args : List String) (toCommand : Given → Option Command) :
    Except Halt (Command × List Given) := do
  let (given, _) ← (commandLevel words takesForce).read .nothing args
  match toCommand given with
  | some command => return (command, [given])
  | none => throw .usage

/-- Reads a tool for schema documents. -/
def readSchemaCommand (args : List String) : Except Halt (Command × List Given) := do
  let (given, next) ← schemaLevel.read .nothing args
  let some (name, rest) := next | throw .usage
  let (command, more) ← match name with
    | "sql" => readCommand 0 false rest fun _ => some .schemaSql
    | "example" => readCommand 0 true rest fun g => some (.schemaExample (g.switches.contains .force))
    | _ => readHelp ("schema" :: rest)
  given.finish
  return (command, given :: more)

/-- Reads all arguments: the command, and what is given at each level, the deepest one last. -/
def readLevels (args : List String) : Except Halt (Command × List Given) := do
  let (given, next) ← programLevel.read .nothing args
  let some (name, rest) := next | throw .usage
  let (command, more) ← match name with
    | "init" => readCommand 0 false rest fun _ => some .init
    | "create" => readCommand 1 false rest fun g => g.words.head?.map .create
    | "up" => readCommand 0 false rest fun _ => some .up
    | "down" => readCommand 0 false rest fun _ => some .down
    | "clear" => readCommand 0 false rest fun _ => some .clear
    | "status" => readCommand 0 false rest fun _ => some .status
    | "schema" => readSchemaCommand rest
    | _ => readHelp rest
  given.finish
  return (command, given :: more)

/-! ## Options -/

/-- The variables of the environment. -/
abbrev Environment := String → Option String

/-- The value that the environment has for an option. -/
def Environment.value? (env : Environment) (s : Setting) : Option String := s.environmentName?.bind env

/-- Whether the environment has values that can be used, as far as they are looked at: those of the options that are
not given at all levels. -/
def Environment.isUsable (env : Environment) (levels : List Given) : Bool :=
  Setting.all.all fun s =>
    match env.value? s with
    | none => true
    | some value => s.accepts value || levels.all fun given => given.settings.any (·.1 == s)

/-- The value of an option that is given at some level or by the environment. -/
def setting? (env : Environment) (levels : List Given) (s : Setting) : Option String :=
  (levels.reverse.findSome? fun given => given.settings.lookup s).or (env.value? s)

/-- What arguments and environment ask for. -/
def Invocation.of (args : List String) (env : Environment) : Except Halt Invocation := do
  let (command, levels) ← readLevels args
  if !env.isUsable levels then throw .usage
  let value? := setting? env levels
  let usual := Connection.Settings.standard
  return {
    command
    connection := { usual with
      url := value? .databaseUrl
      host := (value? .dbHost).getD usual.host
      port := ((value? .dbPort).bind port?).getD usual.port
      username := (value? .dbUser).getD usual.username
      password := (value? .dbPassword).getD usual.password
      database := (value? .dbName).getD usual.database }
    journal := { Journal.standard with
      directory := ((value? .migrationsDir).map Path.mk).getD Journal.standard.directory }
    schemaPath := ((value? .schema).map Path.mk).getD ⟨"schema.json"⟩ }

end SchemaJournal.CommandLine
