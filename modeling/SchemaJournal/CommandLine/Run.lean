import SchemaJournal.CommandLine.Invocation
import SchemaJournal.Connection.Server
import SchemaJournal.Schema.Editor
import SchemaJournal.Schema.Example

/-!
# Running commands

`Invocation.run` does what a command line asks for and gives the lines that it prints; `respond` also reads the
arguments, and turns a failure into the text and the exit code of the program.
-/

namespace SchemaJournal.CommandLine

open Database

/-- Why a command failed. -/
inductive Failure where
  | library (e : Error)
  | connecting (e : Error)
  /-- There is a schema document already. -/
  | schemaExists (path : Path)
deriving DecidableEq, Repr

/-- An error with the cause that lies behind it. -/
def chain (e : Error) : String := e.message ++ ((e.cause?.map (": " ++ ·)).getD "")

/-- The wording of a failure. -/
def Failure.message : Failure → String
  | .library e => chain e
  | .connecting e => "could not connect to the database: " ++ chain e
  | .schemaExists path => path.text ++ " already exists (use --force to overwrite)"

/-- A part of a command: it works on the world, and it can fail. -/
abbrev Part (σ α : Type) := Attempt Failure (World σ) α

/-- An action of the library as a part of a command. -/
def perform (act : Action (World σ) α) : Part σ α := act.restate .library

namespace Invocation

/-- Connects to the database. -/
def runner (i : Invocation) (server : Connection.Server σ) : Part σ (Runner σ) :=
  (Runner.connect i.journal i.connection server).restate .connecting

/-- Loads the schema document. -/
def editor (i : Invocation) : Part σ Editor := perform (World.readFiles (Editor.openAt i.schemaPath))

/-- Works with a runner, and closes its connection whether that succeeds or not. -/
def withRunner (i : Invocation) (server : Connection.Server σ) (act : Runner σ → Action (World σ) α) : Part σ α := do
  let runner ← i.runner server
  let result ← (perform (act runner)).outcome
  perform (World.onDatabase runner.pool.close)
  Attempt.ofExcept result

/-- The line of a migration in a list of all migrations. -/
def statusLine : Migration × Option Moment → String
  | (m, some moment) => "  [applied " ++ moment.display ++ "] " ++ m.id
  | (m, none) => "  [pending]  " ++ m.id

/-- The lines about migrations that were applied. -/
def upLines (report : UpReport) : List String :=
  report.applied.map ("Applied migration: " ++ ·) ++
    (if report.applied.isEmpty then ["Nothing to migrate"]
    else ["All migrations completed successfully (" ++ toString report.applied.length ++ " applied in " ++
      toString report.elapsed.toInt ++ "ms)"])

/-- The example schema in an editor: its tables, added one by one. -/
def exampleEditor (path : Path) : Except Error Editor := Schema.blog.tables.foldlM Editor.add (Editor.new path)

/-- Does what is asked for; the lines that are printed. -/
def run (i : Invocation) (server : Connection.Server σ) : Part σ (List String) := do
  match i.command with
  | .init =>
    let runner ← i.runner server
    perform runner.prepare
    perform (World.onDatabase runner.pool.close)
    return ["Database initialized successfully"]
  | .create name =>
    let tables := (← i.editor).schema.tables
    if tables.isEmpty then
      perform (World.tell .warn
        ("Schema " ++ i.schemaPath.text ++ " has no tables; the migration will be empty"))
    let m ← perform (i.journal.add name tables)
    return ["Migration " ++ m.name ++ " created successfully: " ++ (i.journal.path m.id).text]
  | .up => return upLines (← i.withRunner server Runner.up)
  | .down =>
    match ← i.withRunner server Runner.down with
    | some id => return ["Migration " ++ id ++ " rolled back successfully"]
    | none => return ["No migrations to rollback"]
  | .clear =>
    let schema := (← i.editor).schema
    let dropped ← i.withRunner server (·.clear schema)
    return dropped.map ("Dropped table: " ++ ·) ++ ["Database cleared successfully"]
  | .status =>
    let states ← i.withRunner server Runner.status
    return ["Migration Status:", "================"] ++
      (if states.isEmpty then ["No migrations found"] else states.map statusLine)
  | .schemaSql =>
    let scripts ← perform (Attempt.ofExcept (Ddl.scripts (← i.editor).schema.tables))
    if scripts.isEmpty then
      perform (World.tell .warn ("Schema " ++ i.schemaPath.text ++ " has no tables"))
    return ["\n\n".intercalate scripts]
  | .schemaExample force =>
    if !force && (← get).files.contains i.schemaPath then throw (.schemaExists i.schemaPath)
    let editor ← perform (Attempt.ofExcept (exampleEditor i.schemaPath))
    perform (World.onFiles editor.save)
    return ["Example schema written to " ++ i.schemaPath.text]

end Invocation

/-! ## The program -/

/-- How the program ends: its exit code, what it prints, and its words about a failure. -/
structure Outcome where
  exitCode : UInt32
  output : String
  failure : Option String
deriving DecidableEq, Repr

/-- The version of the program. -/
def versionText : String := "keel 0.3.0"

/-- Lines as one text. -/
def unlines (lines : List String) : String := String.join (lines.map (· ++ "\n"))

/-- Reads a command line and does what it asks for. -/
def respond (args : List String) (env : Environment) (server : Connection.Server σ) (w : World σ) :
    Outcome × World σ :=
  match Invocation.of args env with
  | .error .usage => (⟨2, "", none⟩, w)
  | .error .help => (⟨0, "", none⟩, w)
  | .error .version => (⟨0, unlines [versionText], none⟩, w)
  | .ok i =>
    match i.run server w with
    | (.ok lines, w) => (⟨0, unlines lines, none⟩, w)
    | (.error e, w) => (⟨1, "", some ("Failed to " ++ i.command.action ++ ": " ++ e.message)⟩, w)

end SchemaJournal.CommandLine
