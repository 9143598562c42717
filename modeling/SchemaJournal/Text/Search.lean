/-!
# Searching texts

Whether a text starts with another one, what follows it then, and whether a text occurs in another one.
-/

namespace SchemaJournal.Text

/-- What follows a given start of some characters. -/
def after? : List Char → List Char → Option (List Char)
  | [], rest => some rest
  | _ :: _, [] => none
  | a :: start, c :: rest => if a = c then after? start rest else none

/-- The text that follows a given start. -/
def afterStart? (start s : String) : Option String := (after? start.toList s.toList).map String.ofList

/-- Whether a text starts with another one. -/
def startsWith (start s : String) : Bool := (after? start.toList s.toList).isSome

/-- Whether a pattern occurs somewhere in some characters. -/
def occurs (pattern : List Char) : List Char → Bool
  | [] => pattern.isEmpty
  | c :: rest => (after? pattern (c :: rest)).isSome || occurs pattern rest

/-- Whether a pattern occurs in a text. -/
def occursIn (pattern s : String) : Bool := occurs pattern.toList s.toList

/-- What follows a start is what is left when it is taken off. -/
theorem after?_eq_some_iff {start s rest : List Char} : after? start s = some rest ↔ s = start ++ rest := by
  induction start generalizing s with
  | nil => simp [after?, eq_comm]
  | cons a start ih =>
    cases s with
    | nil => simp [after?]
    | cons c s =>
      by_cases h : a = c
      · subst h; simp [after?, ih]
      · simp [after?, h, Ne.symm h]

end SchemaJournal.Text
