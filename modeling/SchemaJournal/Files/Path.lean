/-!
# Paths

A path is kept as it was written. It is read as the names between its slashes; empty names mean nothing.

- `Path.join`: a name below a directory, or an absolute path in its place;
- `Path.parent?`, `Path.ancestors`: the directories above;
- `Path.stem`, `Path.extension?`: the last name, parted at its last dot.
-/

namespace SchemaJournal

/-- A path as it was written. -/
structure Path where
  text : String
deriving DecidableEq, Repr, Inhabited

namespace Path

/-- The parts between slashes; there is one more than there are slashes. -/
def splitSlashes : List Char → List (List Char)
  | [] => [[]]
  | c :: rest =>
    match splitSlashes rest with
    | [] => [[c]]
    | part :: parts => if c = '/' then [] :: part :: parts else (c :: part) :: parts

/-- The names in a path. -/
def names (p : Path) : List String := ((splitSlashes p.text.toList).filter (!·.isEmpty)).map String.ofList

/-- Whether a path starts at the root. -/
def isAbsolute (p : Path) : Bool := p.text.toList.head? == some '/'

/-- Whether a path ends in a slash, so that it can only mean a directory. -/
def endsInSlash (p : Path) : Bool := p.text.toList.getLast? == some '/'

/-- A name below a directory. An absolute name stands for itself, and below the empty path every name does. -/
def join (directory : Path) (name : String) : Path :=
  if Path.isAbsolute ⟨name⟩ || directory.text.isEmpty then ⟨name⟩
  else if directory.endsInSlash then ⟨directory.text ++ name⟩
  else ⟨directory.text ++ "/" ++ name⟩

/-- The names that lead somewhere: all but those that stay in place. -/
def components (p : Path) : List String := p.names.filter (· != ".")

/-- The path of some names. -/
def ofNames (absolute : Bool) (names : List String) : Path := ⟨(if absolute then "/" else "") ++ "/".intercalate names⟩

/-- The path without its last name; the root and the empty path have none. -/
def parent? (p : Path) : Option Path :=
  if p.names.isEmpty then none else some (ofNames p.isAbsolute p.components.dropLast)

/-- The path of some names, given from the last one on, and the paths of the directories above it. -/
def upwards (absolute : Bool) : List String → List Path
  | [] => []
  | name :: above => ofNames absolute (name :: above).reverse :: upwards absolute above

/-- A path, and the paths of the directories above it from the nearest one on, without the root and the empty path. -/
def ancestors (p : Path) : List Path :=
  if p.text.isEmpty then [] else p :: upwards p.isAbsolute p.components.dropLast.reverse

/-- The last name, unless it is the one that leads upwards. -/
def fileName? (p : Path) : Option String := p.components.getLast?.filter (· != "..")

/-- A name parted at its last dot. A dot in front parts nothing. -/
def partName (name : String) : String × Option String :=
  let reversed := name.toList.reverse
  let ending := reversed.takeWhile (· != '.')
  let start := (reversed.drop (ending.length + 1)).reverse
  if start.isEmpty then (name, none) else (String.ofList start, some (String.ofList ending.reverse))

/-- The last name without its extension; empty where there is no last name. -/
def stem (p : Path) : String := (p.fileName?.map fun name => (partName name).1).getD ""

/-- What follows the last dot of the last name. -/
def extension? (p : Path) : Option String := p.fileName?.bind fun name => (partName name).2

end Path

end SchemaJournal
