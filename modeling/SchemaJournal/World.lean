import SchemaJournal.Files.Tree

/-!
# The world of an operation

Operations work on files and on a database, and they tell in a log what they do. The clock advances by one millisecond
whenever it is read, so that no two readings agree.
-/

namespace SchemaJournal

/-- How much an event matters. -/
inductive Level where
  | info
  | warn
  | error
deriving DecidableEq, Repr

/-- The name of a level in a log. -/
def Level.name : Level → String
  | .info => "INFO"
  | .warn => "WARN"
  | .error => "ERROR"

/-- What an operation tells while it runs. -/
structure Event where
  level : Level
  message : String
deriving DecidableEq, Repr

/-- The line of an event. -/
def Event.text (e : Event) : String := e.level.name ++ " " ++ e.message

/-- Everything that operations work on. -/
structure World (σ : Type) where
  files : FileTree
  database : σ
  /-- The events so far, oldest first. -/
  events : List Event
  /-- Milliseconds since the start of 1970. -/
  clock : Int64

namespace World

/-- Works on the files. -/
def onFiles (act : Action FileTree α) : Action (World σ) α :=
  Attempt.within (·.files) (fun files w => { w with files }) act

/-- Works on the database. -/
def onDatabase (act : Action σ α) : Action (World σ) α :=
  Attempt.within (·.database) (fun database w => { w with database }) act

/-- Looks at the files. -/
def readFiles (f : FileTree → Except Error α) : Action (World σ) α := Attempt.reading fun w => f w.files

/-- Tells an event. -/
def tell (level : Level) (message : String) : Action (World σ) Unit :=
  modify fun w => { w with events := w.events ++ [⟨level, message⟩] }

/-- Reads the clock. -/
def now : Action (World σ) Int64 := fun w => (.ok w.clock, { w with clock := w.clock + 1 })

end World

end SchemaJournal
