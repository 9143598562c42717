import SchemaJournal.Files.Tree
import SchemaJournal.Schema.Codec
import SchemaJournal.Schema.Validation

/-!
# Editing a schema document

An editor holds a schema and the path of its document. It loads the document, changes one table at a time, and saves
the document. A missing document is a schema without tables; what is loaded and what is saved has to be valid.
-/

namespace SchemaJournal

/-- Checks a schema. -/
def Schema.check (s : Schema) : Except Error Unit := s.validate.mapError fun violation => .validation violation.message

/-- A schema under work and the path of its document. -/
structure Editor where
  path : Path
  schema : Schema
deriving Inhabited

namespace Editor

/-- An editor with nothing loaded. -/
def new (path : Path) : Editor := ⟨path, .empty⟩

/-! ## The document -/

/-- The error of a document that cannot be loaded. -/
def loadError (path : Path) (message : String) : Error := .schemaLoad path.text message

/-- Reads the schema of a document. -/
def readSchema (files : FileTree) (path : Path) : Except Error Schema :=
  match files.readText path with
  | .error .notFound => .ok .empty
  | .error e => .error (loadError path e.message)
  | .ok text =>
    match Json.readDocument Schema.read text with
    | .error problem => .error (loadError path problem.message)
    | .ok schema =>
      match schema.check with
      | .error e => .error (loadError path e.message)
      | .ok () => .ok schema

/-- Loads the document. -/
def load (editor : Editor) (files : FileTree) : Except Error Editor := do
  return { editor with schema := ← readSchema files editor.path }

/-- An editor with its document loaded. -/
def openAt (path : Path) (files : FileTree) : Except Error Editor := (new path).load files

/-- Saves the document, in a directory that is made if need be. -/
def save (editor : Editor) : Action FileTree Unit := do
  Attempt.ofExcept editor.schema.check
  match editor.path.parent? with
  | some parent => (FileTree.createDirectories parent).restate FileError.toError
  | none => pure ()
  Attempt.restate FileError.toError
    (Attempt.updating fun files => files.write editor.path editor.schema.toValue.pretty.toUTF8)

/-! ## Tables -/

/-- The first table with a name. -/
def table? (editor : Editor) (name : String) : Option Table := editor.schema.table? name

/-- Appends a table; its name must be new. -/
def add (editor : Editor) (table : Table) : Except Error Editor :=
  if (editor.table? table.name).isSome then .error (.tableExists table.name)
  else .ok { editor with schema := ⟨editor.schema.tables ++ [table]⟩ }

/-- Removes the tables with a name; there may be none. -/
def remove (editor : Editor) (name : String) : Editor :=
  { editor with schema := ⟨editor.schema.tables.filter (·.name != name)⟩ }

/-- Puts a table in the place of the first one with a name. -/
def replaceTable (name : String) (table : Table) : List Table → Option (List Table)
  | [] => none
  | t :: rest => if t.name = name then some (table :: rest) else (replaceTable name table rest).map (t :: ·)

/-- Puts a table in the place of the first one with a name, which must be there. -/
def update (editor : Editor) (name : String) (table : Table) : Except Error Editor :=
  match replaceTable name table editor.schema.tables with
  | some tables => .ok { editor with schema := ⟨tables⟩ }
  | none => .error (.tableNotFound name)

end Editor

end SchemaJournal
