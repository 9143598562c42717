import SchemaJournal.Json.Outline
import SchemaJournal.Json.Problem
import SchemaJournal.Json.Value
import SchemaJournal.Text.Quoted

/-!
# Reading documents

A reader goes through an outline from left to right and gives a value or the first problem. Containers that are read
may be nested up to a limit; what is skipped has to be JSON and is not limited otherwise.

- `readString`, `readBool`, `readInt64`, `readList`, `readVariant`: the simple shapes;
- `readRecord`: a record, written as an object with named fields or as an array of its fields in order;
- `Value.read`: any JSON value; a repeated key keeps its first place and its last value;
- `readDocument`: a whole text.
-/

namespace SchemaJournal.Json

/-- A reader of outlines, given how deep the containers that it enters may still be nested. -/
abbrev Reader (α : Type) := Nat → Outline → Except Problem α

/-- How deep arrays and objects may be nested in a document. -/
def nestingLimit : Nat := 127

namespace Outline

/-! ## What an outline is -/

/-- How a value is named in a message; a value whose spelling means nothing has no name. -/
def describe? : Outline → Option String
  | .null => some "null"
  | .bool b => some ("boolean " ++ Problem.ticked (if b then "true" else "false"))
  | .number n => n.number?.map fun
    | .integer value _ => "integer " ++ Problem.ticked (toString value)
    | .double value => "floating point " ++ Problem.ticked value.text
  | .string s => s.string?.map fun s => "string " ++ Text.quoted s
  | .array _ => some "sequence"
  | .object _ => some "map"
  | .broken => none

/-- The problem of a value that is not of the expected type. -/
def mismatch (expected : String) (o : Outline) : Problem :=
  match o.describe? with
  | some found => .invalidType found expected
  | none => .malformed

mutual

/-- Whether a value is JSON to its end. -/
def isWhole : Outline → Bool
  | .array items => isWholeItems items
  | .object members => isWholeMembers members
  | .broken => false
  | _ => true

/-- Whether an array is JSON to its end. -/
def isWholeItems : Items → Bool
  | .closed => true
  | .cut => false
  | .item head tail => isWhole head && isWholeItems tail

/-- Whether an object is JSON to its end. -/
def isWholeMembers : Members → Bool
  | .closed => true
  | .cut => false
  | .member _ value tail => isWhole value && isWholeMembers tail

end

/-- Passes over a value. -/
def skip (o : Outline) : Except Problem Unit := if o.isWhole then .ok () else .error .malformed

end Outline

/-! ## Simple shapes -/

/-- The string that is spelled, or a malformed document. -/
def readSpelled (s : Spelling) : Except Problem String :=
  match s.string? with
  | some s => .ok s
  | none => .error .malformed

/-- Reads a string. -/
def readString : Reader String
  | _, .string s => readSpelled s
  | _, o => .error (o.mismatch "a string")

/-- Reads a boolean. -/
def readBool : Reader Bool
  | _, .bool b => .ok b
  | _, o => .error (o.mismatch "a boolean")

/-- Reads a signed integer of 64 bits. -/
def readInt64 : Reader Int64
  | _, .number n =>
    match n.number? with
    | some (.integer value _) =>
      if value < signedBound then .ok (Int64.ofInt value)
      else .error (.invalidValue ("integer " ++ Problem.ticked (toString value)) "i64")
    | _ => .error ((Outline.number n).mismatch "i64")
  | _, o => .error (o.mismatch "i64")

/-- Enters a container, if the limit of nesting allows it. -/
def enter (limit : Nat) (read : Nat → Except Problem α) : Except Problem α :=
  match limit with
  | 0 => .error .malformed
  | limit + 1 => read limit

/-- Reads the items of an array one by one. -/
def readItems (read : Outline → Except Problem α) : Items → Except Problem (List α)
  | .closed => .ok []
  | .cut => .error .malformed
  | .item head tail => do return (← read head) :: (← readItems read tail)

/-- Reads an array of values of one kind. -/
def readList (read : Reader α) : Reader (List α)
  | limit, .array items => enter limit fun limit => readItems (read limit) items
  | _, o => .error (o.mismatch "a sequence")

/-- Reads a value or null. -/
def readOptional (read : Reader α) : Reader (Option α)
  | _, .null => .ok none
  | limit, o => some <$> read limit o

/-- The value of a name among the variants. -/
def variant (variants : List (String × α)) (name : String) : Except Problem α :=
  match variants.lookup name with
  | some value => .ok value
  | none => .error (.unknownVariant name (variants.map (·.1)))

/-- Reads one of several named variants: its name, or an object whose only key is the name and whose value is null. -/
def readVariant (variants : List (String × α)) : Reader α
  | _, .string s => do variant variants (← readSpelled s)
  | limit, .object (.member key value tail) => enter limit fun _ => do
    let result ← variant variants (← readSpelled key)
    match value, tail with
    | .null, .closed => return result
    | .null, _ => throw .malformed
    | value, _ => throw (value.mismatch "unit")
  | _, _ => .error .malformed

/-! ## Records -/

/-- Goes through the members of an object from left to right. -/
def foldMembers (step : δ → String → Outline → Except Problem δ) (draft : δ) : Members → Except Problem δ
  | .closed => .ok draft
  | .cut => .error .malformed
  | .member key value tail => do foldMembers step (← step draft (← readSpelled key) value) tail

/-- Reads a field that has not been read before. -/
def readField (name : String) (slot : Option α) (read : Except Problem α) : Except Problem (Option α) :=
  match slot with
  | some _ => .error (.duplicate "field" name)
  | none => some <$> read

/-- A field that must have been read. -/
def required (name : String) (slot : Option α) : Except Problem α :=
  match slot with
  | some value => .ok value
  | none => .error (.missingField name)

/-- Takes the next item of an array; there may be none. -/
def nextItem (read : Outline → Except Problem α) : Items → Except Problem (Option α × Items)
  | .closed => .ok (none, .closed)
  | .cut => .error .malformed
  | .item head tail => do return (some (← read head), tail)

/-- Ends an array, in which nothing may be left. -/
def endItems : Items → Except Problem Unit
  | .closed => .ok ()
  | _ => .error .malformed

/-- Reads a record, which is an object or an array of its fields. -/
def readRecord (name : String) (ofItems : Nat → Items → Except Problem α)
    (ofMembers : Nat → Members → Except Problem α) : Reader α
  | limit, .array items => enter limit fun limit => ofItems limit items
  | limit, .object members => enter limit fun limit => ofMembers limit members
  | _, o => .error (o.mismatch ("struct " ++ name))

/-! ## Any value -/

/-- Sets a member: in its old place if the key is there, else at the end. -/
def setMember (members : List (String × Value)) (key : String) (value : Value) : List (String × Value) :=
  if members.any (·.1 == key) then members.map fun m => if m.1 == key then (key, value) else m
  else members ++ [(key, value)]

namespace Value

mutual

/-- Reads any value. -/
def read : Reader Value
  | _, .null => .ok .null
  | _, .bool b => .ok (.bool b)
  | _, .number n =>
    match n.number? with
    | some n => .ok (.number n)
    | none => .error .malformed
  | _, .string s => .string <$> readSpelled s
  | 0, .array _ => .error .malformed
  | limit + 1, .array items => .array <$> readItems limit items
  | 0, .object _ => .error .malformed
  | limit + 1, .object members => .object <$> readMembers limit [] members
  | _, .broken => .error .malformed

/-- Reads the items of an array. -/
def readItems (limit : Nat) : Items → Except Problem (List Value)
  | .closed => .ok []
  | .cut => .error .malformed
  | .item head tail => do
    let value ← read limit head
    return value :: (← readItems limit tail)

/-- Reads the members of an object after those that have been read. -/
def readMembers (limit : Nat) (done : List (String × Value)) : Members → Except Problem (List (String × Value))
  | .closed => .ok done
  | .cut => .error .malformed
  | .member key value tail => do
    let key ← readSpelled key
    let value ← read limit value
    readMembers limit (setMember done key value) tail

end

end Value

/-! ## Whole texts -/

/-- Reads a text that holds one value and nothing after it. -/
def readDocument (read : Reader α) (text : String) : Except Problem α := do
  let (outline, rest) := Outline.ofTokens (Token.ofChars text.toList)
  let value ← read nestingLimit outline
  if rest.isEmpty then return value else throw .malformed

end SchemaJournal.Json
