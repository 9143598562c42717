/-!
# Problems of a document

What can be wrong with a document: its text is no JSON, or its meaning is not what a reader expects.
-/

namespace SchemaJournal.Json

/-- The first problem met when a document is read. -/
inductive Problem where
  /-- The text is no JSON, or a spelling in it means nothing. -/
  | malformed
  | missingField (name : String)
  /-- A field or column that is given twice. -/
  | duplicate (what name : String)
  | unknownVariant (name : String) (known : List String)
  | invalidType (found expected : String)
  | invalidValue (found expected : String)
  /-- An array in place of a record, too short for its required fields. -/
  | invalidLength (count : Nat) (record : String) (fields : Nat)
deriving DecidableEq, Repr

namespace Problem

/-- A name between grave accents. -/
def ticked (name : String) : String := "`" ++ name ++ "`"

/-- The wording of a problem. -/
def message : Problem → String
  | .malformed => "JSON syntax error"
  | .missingField name => "missing field " ++ ticked name
  | .duplicate what name => "duplicate " ++ what ++ " " ++ ticked name
  | .unknownVariant name known =>
    "unknown variant " ++ ticked name ++ ", expected one of " ++ ", ".intercalate (known.map ticked)
  | .invalidType found expected => "invalid type: " ++ found ++ ", expected " ++ expected
  | .invalidValue found expected => "invalid value: " ++ found ++ ", expected " ++ expected
  | .invalidLength count record fields =>
    "invalid length " ++ toString count ++ ", expected struct " ++ record ++ " with " ++ toString fields ++
      (if fields = 1 then " element" else " elements")

end Problem

end SchemaJournal.Json
