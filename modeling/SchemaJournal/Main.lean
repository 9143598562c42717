import SchemaJournal.CommandLine.Run
import Std.Time.DateTime.Timestamp

/-!
# The program

The outer layer: it reads the arguments, the environment and the files that a command can look at, runs the command on
them, and writes down what the command has changed. Servers are out of its reach.
-/

namespace SchemaJournal.CommandLine

/-- The absolute path of a location. -/
def absolutePath (l : Location) : String := "/" ++ "/".intercalate l.reverse

/-- The locations that a path goes through, from a directory on. -/
def locationsOn (here : Location) : List String → List Location
  | [] => []
  | name :: rest =>
    let next := FileTree.onward here name
    next :: locationsOn next rest

/-- The locations that a path goes through. -/
def locationsOf (working : Location) (p : Path) : List Location :=
  locationsOn (if p.isAbsolute then [] else working) p.names

/-- The names in a directory, if there is one at a location. -/
def namesAt? (l : Location) : IO (Option (List String)) := do
  try
    let entries ← (← IO.FS.realPath (absolutePath l)).readDir
    return some (entries.toList.map (·.fileName))
  catch _ => return none

/-- What stands at a location. -/
def entryAt? (l : Location) : IO (Option Entry) := do
  if (← namesAt? l).isSome then return some .directory
  try
    return some (.file (← IO.FS.readBinFile (absolutePath l)))
  catch _ => return none

/-- Copies what stands at some locations into a tree. -/
def copyInto (t : FileTree) (locations : List Location) : IO FileTree :=
  locations.foldlM (fun t l => do
    match l, ← entryAt? l with
    | _ :: _, some e => return t.put l e
    | _, _ => return t) t

/-- The files that an invocation can look at. -/
def filesFor (working : Location) (i : Invocation) : IO FileTree := do
  let here := locationsOn [] working.reverse
  let journal := locationsOf working i.journal.directory
  let directory := journal.getLast?.getD working
  let documents := ((← namesAt? directory).getD []).map (· :: directory)
  copyInto (.bare working) (here ++ journal ++ documents ++ locationsOf working i.schemaPath)

/-- Writes down what is new or different. -/
def writeChanges (before after : FileTree) : IO Unit :=
  after.entries.forM fun (l, e) => do
    if before.lookup? l ≠ some e then
      match e with
      | .directory => IO.FS.createDirAll (absolutePath l)
      | .file content => IO.FS.writeBinFile (absolutePath l) content

/-- The variables of the environment that stand in for options. -/
def readEnvironment : IO Environment := do
  let names := Setting.all.filterMap Setting.environmentName?
  let values ← names.mapM fun name => return (name, ← IO.getEnv name)
  return fun name => (values.lookup name).join

/-- Runs the program. -/
def runProgram (args : List String) : IO UInt32 := do
  let env ← readEnvironment
  let working := (Path.names ⟨(← IO.currentDir).toString⟩).reverse
  let files ← match Invocation.of args env with
    | .ok i => filesFor working i
    | .error _ => pure (.bare working)
  let clock := Int64.ofInt (← Std.Time.Timestamp.now).toMillisecondsSinceUnixEpoch.val
  let (outcome, world) := respond args env .unreachable (⟨files, (), [], clock⟩ : World Unit)
  writeChanges files world.files
  world.events.forM fun event => IO.eprintln event.text
  IO.print outcome.output
  outcome.failure.forM fun failure => IO.eprintln failure
  return outcome.exitCode

end SchemaJournal.CommandLine

/-- Runs the program. -/
def main (args : List String) : IO UInt32 := SchemaJournal.CommandLine.runProgram args
