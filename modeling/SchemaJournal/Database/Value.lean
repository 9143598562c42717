import SchemaJournal.Database.Moment
import SchemaJournal.Error
import SchemaJournal.Text.Quoted

/-!
# Values of a database

What a statement takes as a parameter and a row has in a column.
-/

namespace SchemaJournal.Database

/-- A value. -/
inductive Value where
  | null
  | bool (b : Bool)
  | int4 (n : Int32)
  | int8 (n : Int64)
  | text (s : String)
  | timestamp (m : Moment)
deriving DecidableEq, Inhabited

namespace Value

/-- The name of a kind of values. -/
def kind : Value → String
  | .null => "null"
  | .bool _ => "bool"
  | .int4 _ => "int4"
  | .int8 _ => "int8"
  | .text _ => "text"
  | .timestamp _ => "timestamp"

/-- Whether this is the null value. -/
def isNull : Value → Bool
  | .null => true
  | _ => false

/-- A value, or null. -/
def ofOption : Option Value → Value
  | some value => value
  | none => .null

/-- The error of a column with a value that is not of the expected kind. -/
def unexpected (column expected : String) (found : Value) : Error :=
  .database ("Column '" ++ column ++ "' has unexpected type: expected " ++ expected ++ ", found " ++ found.kind)

/-- The text in a column. -/
def toText (column : String) : Value → Except Error String
  | .text s => .ok s
  | other => .error (unexpected column "text" other)

/-- The integer in a column, of either width. -/
def toInteger (column : String) : Value → Except Error Int64
  | .int8 n => .ok n
  | .int4 n => .ok n.toInt64
  | other => .error (unexpected column "integer" other)

/-- The moment in a column. -/
def toMoment (column : String) : Value → Except Error Moment
  | .timestamp m => .ok m
  | other => .error (unexpected column "timestamp" other)

/-- How a value is shown in a complaint about it. -/
def shown : Value → String
  | .null => "Null"
  | .bool b => "Bool(" ++ (if b then "true" else "false") ++ ")"
  | .int4 n => "Int32(" ++ toString n.toInt ++ ")"
  | .int8 n => "Int64(" ++ toString n.toInt ++ ")"
  | .text s => "String(" ++ Text.quoted s ++ ")"
  | .timestamp m => "DateTime(" ++ m.text ++ ")"

/-- How a parameter that may be missing is shown. -/
def parameterShown : Option Value → String
  | none => "None"
  | some value => "Some(" ++ value.shown ++ ")"

end Value

end SchemaJournal.Database
