/-!
# Arguments of a command line

The arguments of a command line are read level by level: options of the program, the name of a command, options and
words of the command, and so on. `Level.read` reads one level; what follows the name of a command is left for the next.

An option that takes a value has it in the same argument after `=` or in the next one, which must not look like an
option. Every option may be given once at each level. After `--` everything is a word.

A value in an argument of its own is looked at when the next argument of the level is read. Where that is the name of a
command, the command is read first, so that help about it can be asked for in any case.
-/

namespace SchemaJournal.CommandLine

/-- The options that take a value. They may be given at every level. -/
inductive Setting where
  | databaseUrl
  | dbHost
  | dbPort
  | dbUser
  | dbPassword
  | dbName
  | migrationsDir
  | schema
deriving DecidableEq, Repr

/-- The options that take no value. -/
inductive Switch where
  | verbose
  | logJson
  | force
deriving DecidableEq, Repr

/-- Why reading stops. -/
inductive Halt where
  /-- The arguments make no sense. -/
  | usage
  | help
  | version
deriving DecidableEq, Repr

/-! ## Values -/

/-- The number of a sign and digits. -/
def integer? (s : String) : Option Int :=
  let digits (cs : List Char) : Option Nat :=
    if cs.isEmpty || !cs.all Char.isDigit then none else some (cs.foldl (fun n c => 10 * n + (c.toNat - 48)) 0)
  match s.toList with
  | '-' :: cs => (digits cs).map fun n => -(n : Int)
  | '+' :: cs => (digits cs).map fun n => (n : Int)
  | cs => (digits cs).map fun n => (n : Int)

/-- The port of a text. -/
def port? (s : String) : Option UInt16 :=
  (integer? s).bind fun n => if 0 ≤ n ∧ n < 65536 then some (UInt16.ofNat n.toNat) else none

namespace Setting

/-- All of these options. -/
def all : List Setting := [.databaseUrl, .dbHost, .dbPort, .dbUser, .dbPassword, .dbName, .migrationsDir, .schema]

/-- The name of an option. -/
def name : Setting → String
  | .databaseUrl => "database-url"
  | .dbHost => "db-host"
  | .dbPort => "db-port"
  | .dbUser => "db-user"
  | .dbPassword => "db-password"
  | .dbName => "db-name"
  | .migrationsDir => "migrations-dir"
  | .schema => "schema"

/-- The variable of the environment that stands in for an option. -/
def environmentName? : Setting → Option String
  | .databaseUrl => some "DATABASE_URL"
  | .dbHost => some "DB_HOST"
  | .dbPort => some "DB_PORT"
  | .dbUser => some "DB_USER"
  | .dbPassword => some "DB_PASSWORD"
  | .dbName => some "DB_NAME"
  | .migrationsDir => none
  | .schema => none

/-- Whether a value can be given for an option: ports are numbers, and paths are not empty. -/
def accepts : Setting → String → Bool
  | .dbPort, value => (port? value).isSome
  | .migrationsDir, value => !value.isEmpty
  | .schema, value => !value.isEmpty
  | _, _ => true

end Setting

/-! ## Levels -/

/-- What can be given at a level besides the options that can be given at every one. -/
structure Level where
  /-- The commands that lead to a further level. -/
  commands : List String
  /-- How many words may be given. -/
  words : Nat
  /-- Whether there is a switch to force something. -/
  takesForce : Bool
  /-- Whether the version can be asked for. -/
  tellsVersion : Bool

/-- What is given at a level. -/
structure Given where
  settings : List (Setting × String)
  switches : List Switch
  words : List String
  /-- Whether the level ends with a value that cannot be used; this counts once the command has been read. -/
  refused : Bool
deriving DecidableEq, Repr

namespace Given

/-- Nothing is given. -/
def nothing : Given := ⟨[], [], [], false⟩

/-- Adds an option with its value. -/
def addSetting (given : Given) (s : Setting) (value : String) : Except Halt Given :=
  if given.settings.any (·.1 == s) || !s.accepts value then .error .usage
  else .ok { given with settings := given.settings ++ [(s, value)] }

/-- Adds an option without a value. -/
def addSwitch (given : Given) (s : Switch) : Except Halt Given :=
  if given.switches.contains s then .error .usage else .ok { given with switches := given.switches ++ [s] }

/-- Ends a level after its command has been read. -/
def finish (given : Given) : Except Halt Unit := if given.refused then .error .usage else .ok ()

end Given

/-- An argument by its look. -/
inductive Look where
  | word
  | short (letters : List Char)
  | long (name : String) (value : Option String)
deriving DecidableEq, Repr

/-- The look of an argument. A single `-` is a word. -/
def lookOf (arg : String) : Look :=
  match arg.toList with
  | '-' :: '-' :: rest =>
    let name := String.ofList (rest.takeWhile (· != '='))
    match rest.dropWhile (· != '=') with
    | _ :: value => .long name (some (String.ofList value))
    | [] => .long name none
  | '-' :: c :: rest => .short (c :: rest)
  | _ => .word

namespace Level

/-- Adds a word. -/
def addWord (level : Level) (given : Given) (word : String) : Except Halt Given :=
  if given.words.length < level.words then .ok { given with words := given.words ++ [word] } else .error .usage

/-- Reads an option that takes no value, by its name. -/
def readSwitch (level : Level) (given : Given) : String → Except Halt Given
  | "help" => .error .help
  | "version" => .error (if level.tellsVersion then .version else .usage)
  | "verbose" => given.addSwitch .verbose
  | "log-json" => given.addSwitch .logJson
  | "force" => if level.takesForce then given.addSwitch .force else .error .usage
  | _ => .error .usage

/-- The name of an option by its letter. -/
def switchName : Char → String
  | 'h' => "help"
  | 'V' => "version"
  | 'v' => "verbose"
  | _ => ""

/-- Reads the arguments of a level up to the name of a command, which is given with all that follows it. -/
def read (level : Level) (given : Given) : List String → Except Halt (Given × Option (String × List String))
  | [] => .ok (given, none)
  | arg :: rest =>
    if level.commands.contains arg then .ok (given, some (arg, rest))
    else if arg = "--" then do return (← rest.foldlM level.addWord given, none)
    else
      match lookOf arg with
      | .word => do level.read (← level.addWord given arg) rest
      | .short letters => do
        level.read (← letters.foldlM (fun given c => level.readSwitch given (switchName c)) given) rest
      | .long name value =>
        match Setting.all.find? (·.name == name), value, rest with
        | some s, some value, rest => do level.read (← given.addSetting s value) rest
        | some s, none, value :: rest =>
          if lookOf value ≠ .word then .error .usage
          else
            match given.addSetting s value, rest with
            | .ok given, rest => level.read given rest
            | .error halt, [] => .error halt
            | .error halt, name :: rest =>
              if level.commands.contains name then .ok ({ given with refused := true }, some (name, rest))
              else .error halt
        | some _, none, [] => .error .usage
        | none, some _, _ => .error .usage
        | none, none, rest => do level.read (← level.readSwitch given name) rest

end Level

end SchemaJournal.CommandLine
