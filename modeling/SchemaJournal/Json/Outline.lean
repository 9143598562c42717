import SchemaJournal.Json.Token

/-!
# Outlines of documents

An outline is the tree of a document, cut off where the text stops being JSON: every array and object says whether it
was closed, and a value that cannot be read is `broken`. A reader that goes through an outline from left to right thus
meets the first problem of the document first, whether the text or its meaning is at fault.

`Outline.ofTokens` builds the outline with a stack of the containers that wait for a value, one token at a time.
-/

namespace SchemaJournal.Json

mutual

/-- The tree of a document, as far as its text is JSON. -/
inductive Outline where
  | null
  | bool (b : Bool)
  | number (n : Numeral)
  | string (s : Spelling)
  | array (items : Items)
  | object (members : Members)
  | broken

/-- The items of an array, and whether the array was closed after them. -/
inductive Items where
  | closed
  | cut
  | item (head : Outline) (tail : Items)

/-- The members of an object, and whether the object was closed after them. -/
inductive Members where
  | closed
  | cut
  | member (key : Spelling) (value : Outline) (tail : Members)

end

namespace Items

/-- Puts items, the last one first, in front of others. -/
def prepend (done : List Outline) (rest : Items) : Items := done.foldl (fun tail head => .item head tail) rest

end Items

namespace Members

/-- Puts members, the last one first, in front of others. -/
def prepend (done : List (Spelling × Outline)) (rest : Members) : Members :=
  done.foldl (fun tail (key, value) => .member key value tail) rest

end Members

namespace Outline

/-! ## Building an outline -/

/-- A container that waits for a value, with what it holds already, the last part first. -/
inductive Parent where
  | array (done : List Outline)
  | object (done : List (Spelling × Outline)) (key : Spelling)

/-- Where in the document the next token stands. -/
inductive Position where
  | value
  | firstItem
  | afterItem (done : List Outline)
  | firstKey
  | key (done : List (Spelling × Outline))
  | colon (done : List (Spelling × Outline)) (key : Spelling)
  | afterMember (done : List (Spelling × Outline))

/-- What a token leads to. -/
inductive Step where
  | continue (parents : List Parent) (position : Position)
  | complete (value : Outline)
  | stuck

/-- Hands a complete value to the container that waits for it. -/
def settle (value : Outline) : List Parent → Step
  | [] => .complete value
  | .array done :: parents => .continue parents (.afterItem (value :: done))
  | .object done key :: parents => .continue parents (.afterMember ((key, value) :: done))

/-- A token where a value is expected. -/
def startValue (parents : List Parent) : Token → Step
  | .null => settle .null parents
  | .bool b => settle (.bool b) parents
  | .number n => settle (.number n) parents
  | .string s => settle (.string s) parents
  | .openArray => .continue parents .firstItem
  | .openObject => .continue parents .firstKey
  | _ => .stuck

/-- One token at a position. -/
def step (parents : List Parent) : Position → Token → Step
  | .value, token => startValue parents token
  | .firstItem, .closeArray => settle (.array .closed) parents
  | .firstItem, token => startValue (.array [] :: parents) token
  | .afterItem done, .comma => .continue (.array done :: parents) .value
  | .afterItem done, .closeArray => settle (.array (Items.prepend done .closed)) parents
  | .afterItem _, _ => .stuck
  | .firstKey, .closeObject => settle (.object .closed) parents
  | .firstKey, .string s => .continue parents (.colon [] s)
  | .firstKey, _ => .stuck
  | .key done, .string s => .continue parents (.colon done s)
  | .key _, _ => .stuck
  | .colon done key, .colon => .continue (.object done key :: parents) .value
  | .colon _ _, _ => .stuck
  | .afterMember done, .comma => .continue parents (.key done)
  | .afterMember done, .closeObject => settle (.object (Members.prepend done .closed)) parents
  | .afterMember _, _ => .stuck

/-- The part of the innermost value that has been read when the text is cut off. -/
def fragment : Position → Outline
  | .value => .broken
  | .firstItem => .array .cut
  | .afterItem done => .array (Items.prepend done .cut)
  | .firstKey => .object .cut
  | .key done => .object (Members.prepend done .cut)
  | .colon done key => .object (Members.prepend ((key, .broken) :: done) .cut)
  | .afterMember done => .object (Members.prepend done .cut)

/-- Cuts off all containers around a value. -/
def enclose (value : Outline) : List Parent → Outline
  | [] => value
  | .array done :: parents => enclose (.array (Items.prepend (value :: done) .cut)) parents
  | .object done key :: parents => enclose (.object (Members.prepend ((key, value) :: done) .cut)) parents

/-- The outline of the value that the tokens start with, and the tokens after it. -/
def build (parents : List Parent) (position : Position) : List Token → Outline × List Token
  | [] => (enclose (fragment position) parents, [])
  | token :: rest =>
    match step parents position token with
    | .continue parents position => build parents position rest
    | .complete value => (value, rest)
    | .stuck => (enclose (fragment position) parents, [])

/-- The outline of a list of tokens, and the tokens after it. -/
def ofTokens (tokens : List Token) : Outline × List Token := build [] .value tokens

end Outline

end SchemaJournal.Json
