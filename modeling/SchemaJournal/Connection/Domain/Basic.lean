import SchemaJournal.Connection.Domain.Direction
import SchemaJournal.Connection.Domain.Joiner
import SchemaJournal.Connection.Domain.Punycode
import SchemaJournal.Connection.Domain.Replacement
import SchemaJournal.Text.Percent
import SchemaJournal.Text.Search

/-!
# Domains

A domain has labels with dots between them. Its characters are replaced by small letters in their normal form, and a
label that is written in ASCII for one beyond ASCII is read as that one. `Domain.ofText?` gives the labels of a domain,
if all of them are in order.
-/

namespace SchemaJournal.Connection

/-- Characters that no host has. -/
def isForbiddenInHost (c : Char) : Bool :=
  ['\x00', '\t', '\n', '\r', ' ', '#', '/', ':', '<', '>', '?', '@', '[', '\\', ']', '^', '|'].contains c

namespace Domain

/-- Characters of ASCII that no domain has. -/
def isForbidden (c : Char) : Bool := isForbiddenInHost c || Text.isControl c || c == '%'

/-- The characters of a domain in their normal form, if none of them is refused. -/
def normalized? (cs : List Char) : Option (List Char) := (cs.mapM replacement?).map fun parts => normalForm parts.flatten

/-- How long the text that stands for a label beyond ASCII may be. -/
def longestEncoded : Nat := 2000

/-- How long a label beyond ASCII may be. -/
def longestDecoded : Nat := 1000

/-- A label beyond ASCII by the text that stands for it. It has to be what a domain would make of it. -/
def decodeLabel? (cs : List Char) : Option (List Char) :=
  if cs.getLast?.all (· == '-') || longestEncoded < cs.length then none
  else (Punycode.decode? cs).filter fun label => label.all stays && normalForm label == label

/-- A label by its text, which may stand for one beyond ASCII. -/
def label? (cs : List Char) : Option (List Char) :=
  match Text.after? ['x', 'n', '-', '-'] cs with
  | some encoded => decodeLabel? encoded
  | none => some cs

/-- Whether a label is in order by itself: it starts with no mark, its joiners fit, and it is not too long. -/
def isLabel (label : List Char) : Bool :=
  !label.head?.any isMark && joinersFit label && (label.all (·.toNat < 128) || label.length ≤ longestDecoded)

/-- Whether each label has one direction, as it must if there are characters from right to left. -/
def areClear (labels : List (List Char)) : Bool :=
  let directions := labels.map (·.map Direction.of)
  !directions.any (·.any Direction.isRightward) || directions.all isClear

/-- The labels of a domain. -/
def ofText? (cs : List Char) : Option (List (List Char)) := do
  let characters ← normalized? cs
  if characters.any isForbidden then none
  let labels ← (splitOn '.' characters).mapM label?
  if labels.all isLabel && areClear labels then some labels else none

/-- The text of a domain with the given labels. -/
def text (labels : List (List Char)) : List Char := List.intercalate ['.'] labels

end Domain

end SchemaJournal.Connection
