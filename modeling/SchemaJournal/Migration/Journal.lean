import SchemaJournal.Files.Tree
import SchemaJournal.Migration.Basic

/-!
# The journal

The journal keeps every migration as a document of its own, in one directory and under the id of the migration. A
document that is there is never written again.

- `Journal.save` adds a migration;
- `Journal.list` gives all migrations in the order of their times, and fails if one document does not belong there;
- `Journal.find` gives the migration with an id.
-/

namespace SchemaJournal

/-- Where migrations are kept: the directory of their documents, and the table of the database that records them. -/
structure Journal where
  directory : Path
  table : String
deriving DecidableEq, Repr, Inhabited

namespace Journal

/-- The journal in the usual place. -/
def standard : Journal := ⟨⟨"migrations"⟩, "_migrations"⟩

/-- The path of the document with an id. -/
def path (j : Journal) (id : String) : Path := j.directory.join (id ++ ".json")

/-- The document of a migration. -/
def document (m : Migration) : String := m.toValue.pretty ++ "\n"

/-- Adds a migration; its id must be new. -/
def save (j : Journal) (m : Migration) : Action FileTree Path := do
  (FileTree.createDirectories j.directory).restate FileError.toError
  let path := j.path m.id
  Attempt.restate (fun
      | .alreadyExists => .duplicateMigration m.id
      | e => e.toError)
    (Attempt.updating fun files => files.create path (document m).toUTF8)
  return path

/-- Reads the migration of a document, whose name must be its id. -/
def load (files : FileTree) (path : Path) : Except Error Migration :=
  match files.readText path with
  | .error e => .error e.toError
  | .ok text =>
    match Json.readDocument Migration.read text with
    | .error problem => .error (.corruptMigration path.text problem.message)
    | .ok m =>
      if m.id = path.stem then .ok m
      else .error (.corruptMigration path.text ("id '" ++ m.id ++ "' does not match file name"))

/-- Whether a path is the one of a document: a file with the right extension. -/
def isDocument (files : FileTree) (path : Path) : Bool := files.isFile path && path.extension? == some "json"

/-- The paths of the documents in the directory. -/
def documents (j : Journal) (files : FileTree) (names : List String) : List Path :=
  (names.map j.directory.join).filter (isDocument files)

/-- All migrations, earlier ones first. A missing directory has none. -/
def list (j : Journal) (files : FileTree) : Except Error (List Migration) :=
  match files.list j.directory with
  | .error .notFound => .ok []
  | .error e => .error e.toError
  | .ok names => do return (← (j.documents files names).mapM (load files)).mergeSort Migration.before

/-- The migration with an id, if there is a document under it. -/
def find (j : Journal) (files : FileTree) (id : String) : Except Error (Option Migration) :=
  if files.isFile (j.path id) then some <$> load files (j.path id) else .ok none

end Journal

end SchemaJournal
