import SchemaJournal.Action
import SchemaJournal.Files.Path

/-!
# File trees

A file tree holds directories and files by their location, and a working directory at which relative paths start.
Every name of a path on the way to its last one has to lead to a directory that is there.

- `FileTree.lookup?` is the view of a tree; `lookup?_put` says how it changes;
- `FileTree.locate` finds what a path leads to;
- the operations fail with a `FileError` and change nothing then, but for `FileTree.createDirectories`, which keeps the
  directories that it has made.
-/

namespace SchemaJournal

/-- Why an operation on files failed. -/
inductive FileError where
  | notFound
  | busy
  | alreadyExists
  | notDirectory
  | isDirectory
  | invalid
  | nameTooLong
  | notEmpty
  | nullCharacter
  | notText
deriving DecidableEq, Repr

namespace FileError

/-- The wording of an error. -/
def message : FileError → String
  | .notFound => "No such file or directory (os error 2)"
  | .busy => "Device or resource busy (os error 16)"
  | .alreadyExists => "File exists (os error 17)"
  | .notDirectory => "Not a directory (os error 20)"
  | .isDirectory => "Is a directory (os error 21)"
  | .invalid => "Invalid argument (os error 22)"
  | .nameTooLong => "File name too long (os error 36)"
  | .notEmpty => "Directory not empty (os error 39)"
  | .nullCharacter => "file name contained an unexpected NUL byte"
  | .notText => "stream did not contain valid UTF-8"

/-- An error of a file as an error of the library. -/
def toError (e : FileError) : Error := .io e.message

end FileError

/-- Where something stands in a tree: its name, then the names of the directories above it. -/
abbrev Location := List String

/-- What stands at a location. -/
inductive Entry where
  | directory
  | file (content : ByteArray)

instance : DecidableEq Entry
  | .directory, .directory => .isTrue rfl
  | .directory, .file _ => .isFalse nofun
  | .file _, .directory => .isFalse nofun
  | .file a, .file b =>
    match ByteArray.instDecidableEq a b with
    | .isTrue h => .isTrue (congrArg Entry.file h)
    | .isFalse h => .isFalse fun e => h (Entry.file.inj e)

/-- Directories and files by their location, in the order in which a directory is listed. -/
structure FileTree where
  entries : List (Location × Entry)
  unique : (entries.map (·.1)).Nodup
  workingDirectory : Location

namespace FileTree

/-! ## Entries -/

/-- What stands at a location. The root is a directory always. -/
def lookup? (t : FileTree) (l : Location) : Option Entry :=
  match l with
  | [] => some .directory
  | l => t.entries.lookup l

/-- A tree in which nothing stands yet. -/
def bare (workingDirectory : Location) : FileTree := ⟨[], List.nodup_nil, workingDirectory⟩

/-- The entries after one is put in its place, or at the end. -/
def putEntry (l : Location) (e : Entry) : List (Location × Entry) → List (Location × Entry)
  | [] => [(l, e)]
  | (l', e') :: rest => if l' = l then (l, e) :: rest else (l', e') :: putEntry l e rest

theorem putEntry_locations (l : Location) (e : Entry) (entries : List (Location × Entry)) :
    (putEntry l e entries).map (·.1) =
      if l ∈ entries.map (·.1) then entries.map (·.1) else entries.map (·.1) ++ [l] := by
  induction entries with
  | nil => simp [putEntry]
  | cons head rest ih =>
    obtain ⟨l', e'⟩ := head
    by_cases h : l' = l
    · subst h; simp [putEntry]
    · have h' : ¬l = l' := fun e => h e.symm
      simp only [putEntry, if_neg h, List.map_cons, ih, List.mem_cons, h', false_or]
      split <;> simp

/-- Puts an entry at a location. -/
def put (t : FileTree) (l : Location) (e : Entry) : FileTree where
  entries := putEntry l e t.entries
  unique := by
    rw [putEntry_locations]
    split
    · exact t.unique
    · next h => exact List.nodup_append.2 ⟨t.unique, by simp, by
        intro a ha b hb
        simp only [List.mem_singleton] at hb
        subst hb
        exact fun e => h (e ▸ ha)⟩
  workingDirectory := t.workingDirectory

/-- Takes the entry at a location away. -/
def erase (t : FileTree) (l : Location) : FileTree where
  entries := t.entries.filter (·.1 != l)
  unique := t.unique.sublist (List.filter_sublist.map _)
  workingDirectory := t.workingDirectory

/-- The first entry at a location is the one that is found. -/
theorem lookup_entry (l k : Location) (e : Entry) (rest : List (Location × Entry)) :
    ((l, e) :: rest).lookup k = if k = l then some e else rest.lookup k := by
  by_cases h : k = l <;> simp [List.lookup_cons, h, beq_eq_false_iff_ne.2]

theorem lookup_putEntry (l k : Location) (e : Entry) (entries : List (Location × Entry)) :
    (putEntry l e entries).lookup k = if k = l then some e else entries.lookup k := by
  induction entries with
  | nil => simp [putEntry, lookup_entry]
  | cons head rest ih =>
    obtain ⟨l', e'⟩ := head
    by_cases h : l' = l
    · subst h; by_cases hk : k = l' <;> simp [putEntry, lookup_entry, hk]
    · rw [putEntry, if_neg h, lookup_entry, lookup_entry, ih]
      by_cases hk : k = l' <;> simp_all

/-- An entry that is put stands at its location, and all others stay. -/
theorem lookup?_put (t : FileTree) {l : Location} (hl : l ≠ []) (e : Entry) (k : Location) :
    (t.put l e).lookup? k = if k = l then some e else t.lookup? k := by
  cases k with
  | nil => simp [lookup?, Ne.symm hl]
  | cons name above => simp [lookup?, put, lookup_putEntry]

/-! ## Finding what a path leads to -/

/-- How long a name may be, in bytes. -/
def longestName : Nat := 255

/-- How long a path may be, in bytes. -/
def longestPath : Nat := 4095

/-- Where a name leads from a directory, if anything stands there. -/
def onward (here : Location) (name : String) : Location :=
  if name = "." then here else if name = ".." then here.tail else name :: here

/-- Goes from a directory to another one by a name. -/
def step (t : FileTree) (here : Location) (name : String) : Except FileError Location :=
  if name = "." then .ok here
  else if name = ".." then .ok here.tail
  else if longestName < name.utf8ByteSize then .error .nameTooLong
  else
    match t.lookup? (name :: here) with
    | none => .error .notFound
    | some (.file _) => .error .notDirectory
    | some .directory => .ok (name :: here)

/-- Goes from a directory to another one by several names. -/
def walk (t : FileTree) (here : Location) : List String → Except FileError Location
  | [] => .ok here
  | name :: rest => do t.walk (← t.step here name) rest

/-- Where a path leads: to a directory that has no name there, or to a name in a directory. -/
inductive Destination where
  | directory (location : Location)
  | named (parent : Location) (name : String)
deriving DecidableEq, Repr

/-- Follows a path up to its last name, where nothing needs to stand. -/
def destination (t : FileTree) (p : Path) : Except FileError Destination := do
  if p.text.toList.contains '\x00' then throw .nullCharacter
  if longestPath < p.text.utf8ByteSize then throw .nameTooLong
  if p.text.isEmpty then throw .notFound
  let start := if p.isAbsolute then [] else t.workingDirectory
  match p.names.getLast? with
  | none => return .directory start
  | some last =>
    let here ← t.walk start p.names.dropLast
    if last = "." ∨ last = ".." then return .directory (← t.step here last)
    return .named here last

/-- What stands under a name in a directory, if anything does. -/
def find (t : FileTree) (parent : Location) (name : String) : Except FileError (Option Entry) :=
  if longestName < name.utf8ByteSize then .error .nameTooLong else .ok (t.lookup? (name :: parent))

/-- The location and the entry that a path leads to. -/
def locate (t : FileTree) (p : Path) : Except FileError (Location × Entry) := do
  match ← t.destination p with
  | .directory l => return (l, .directory)
  | .named parent name =>
    match ← t.find parent name with
    | none => throw .notFound
    | some .directory => return (name :: parent, .directory)
    | some (.file content) => if p.endsInSlash then throw .notDirectory else return (name :: parent, .file content)

/-- Whether a path leads to something. -/
def contains (t : FileTree) (p : Path) : Bool :=
  match t.locate p with
  | .ok _ => true
  | .error _ => false

/-- Whether a path leads to a file. -/
def isFile (t : FileTree) (p : Path) : Bool :=
  match t.locate p with
  | .ok (_, .file _) => true
  | _ => false

/-- Whether a path leads to a directory. -/
def isDirectory (t : FileTree) (p : Path) : Bool :=
  match t.locate p with
  | .ok (_, .directory) => true
  | _ => false

/-! ## Reading -/

/-- The bytes of a file. -/
def read (t : FileTree) (p : Path) : Except FileError ByteArray := do
  match ← t.locate p with
  | (_, .directory) => throw .isDirectory
  | (_, .file content) => return content

/-- The text of a file, which has to be UTF-8. -/
def readText (t : FileTree) (p : Path) : Except FileError String := do
  match String.fromUTF8? (← t.read p) with
  | some text => return text
  | none => throw .notText

/-- The names in a directory. -/
def children (t : FileTree) (l : Location) : List String :=
  t.entries.filterMap fun
    | (name :: parent, _) => if parent = l then some name else none
    | ([], _) => none

/-- The names in the directory that a path leads to. -/
def list (t : FileTree) (p : Path) : Except FileError (List String) := do
  match ← t.locate p with
  | (l, .directory) => return t.children l
  | (_, .file _) => throw .notDirectory

/-- A location by its names from a directory on, if it stands below that directory. -/
def below? (directory l : Location) : Option (List String) :=
  if directory.length < l.length ∧ l.drop (l.length - directory.length) = directory then
    some (l.take (l.length - directory.length)).reverse
  else
    none

/-- All entries below the working directory, by their names from there on. -/
def contents (t : FileTree) : List (List String × Entry) :=
  t.entries.filterMap fun (l, e) => (below? t.workingDirectory l).map (·, e)

/-! ## Changing -/

/-- Writes a file, which may be there already. -/
def write (t : FileTree) (p : Path) (content : ByteArray) : Except FileError FileTree := do
  match ← t.destination p with
  | .directory _ => throw .isDirectory
  | .named parent name =>
    if p.endsInSlash then throw .isDirectory
    if (← t.find parent name) = some .directory then throw .isDirectory
    return t.put (name :: parent) (.file content)

/-- Writes a file that must not be there yet. -/
def create (t : FileTree) (p : Path) (content : ByteArray) : Except FileError FileTree := do
  match ← t.destination p with
  | .directory _ => throw .alreadyExists
  | .named parent name =>
    if p.endsInSlash then throw .isDirectory
    if (← t.find parent name).isSome then throw .alreadyExists
    return t.put (name :: parent) (.file content)

/-- Makes a directory in one that is there. -/
def createDirectory (t : FileTree) (p : Path) : Except FileError FileTree := do
  match ← t.destination p with
  | .directory _ => throw .alreadyExists
  | .named parent name =>
    if (← t.find parent name).isSome then throw .alreadyExists
    return t.put (name :: parent) .directory

/-- Makes the first of some directories, each of which stands in the next one. Where that is missing, it is made
before. A directory that is there already is as good as a new one. -/
def createAll (t : FileTree) : List Path → Except FileError Unit × FileTree
  | [] => (.ok (), t)
  | p :: above =>
    let settle (t : FileTree) (e : FileError) : Except FileError Unit × FileTree :=
      (if t.isDirectory p then .ok () else .error e, t)
    match t.createDirectory p with
    | .ok t => (.ok (), t)
    | .error .notFound =>
      match t.createAll above with
      | (.error e, t) => (.error e, t)
      | (.ok (), t) =>
        match t.createDirectory p with
        | .ok t => (.ok (), t)
        | .error e => settle t e
    | .error e => settle t e

/-- Makes a directory and all those above it that are missing. The empty path needs none. -/
def createDirectories (p : Path) : Attempt FileError FileTree Unit := fun t => t.createAll p.ancestors

/-- Removes a file. -/
def remove (t : FileTree) (p : Path) : Except FileError FileTree := do
  match ← t.locate p with
  | (_, .directory) => throw .isDirectory
  | (l, .file _) => return t.erase l

/-- Entries put one after the other into a tree that has none. -/
def ofEntries (workingDirectory : Location) (entries : List (Location × Entry)) : FileTree :=
  entries.foldl (fun t (l, e) => t.put l e) (bare workingDirectory)

/-- A location after everything at and below `old` has come to stand at `new`. -/
def moved (old new l : Location) : Location :=
  if l = old then new
  else
    match below? old l with
    | some names => names.reverse ++ new
    | none => l

/-- Moves a file or a directory with all below it, in the place of a file or of an empty directory if need be. Nothing
moves to where it stands above, nor into the place of what stands above it. -/
def rename (t : FileTree) (source target : Path) : Except FileError FileTree := do
  if (source.text ++ target.text).toList.contains '\x00' then throw .nullCharacter
  match ← t.destination source, ← t.destination target with
  | .named sourceParent sourceName, .named targetParent targetName =>
    let old := sourceName :: sourceParent
    let new := targetName :: targetParent
    let some entry ← t.find sourceParent sourceName | throw .notFound
    let replaced ← t.find targetParent targetName
    if entry ≠ .directory ∧ (source.endsInSlash ∨ target.endsInSlash) then throw .notDirectory
    if (below? old new).isSome then throw .invalid
    if (below? new old).isSome then throw .notEmpty
    if old = new then return t
    match entry, replaced with
    | .file _, some .directory => throw .isDirectory
    | .directory, some (.file _) => throw .notDirectory
    | .directory, some .directory => if !(t.children new).isEmpty then throw .notEmpty
    | _, _ => pure ()
    return ofEntries t.workingDirectory ((t.erase new).entries.map fun (l, e) => (moved old new l, e))
  | _, _ => throw .busy

end FileTree

end SchemaJournal
