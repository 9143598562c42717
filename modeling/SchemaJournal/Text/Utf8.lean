/-!
# Faults in UTF-8

Bytes are read piece by piece: a piece is a character, or as much of one as there is before it goes on wrongly or the
bytes end.

- `utf8Fault?` says where bytes stop being UTF-8;
- `lossyText` reads bytes with a mark in the place of every piece that is no character.
-/

namespace SchemaJournal.Text

/-- Whether a byte can stand inside a character. -/
def continues (b : UInt8) : Bool := 0x80 ≤ b && b ≤ 0xBF

/-- How many bytes follow the first byte of a character, and the range of the one that follows it first. -/
def following? (b : UInt8) : Option (Nat × UInt8 × UInt8) :=
  if b ≤ 0x7F then some (0, 0x80, 0xBF)
  else if 0xC2 ≤ b && b ≤ 0xDF then some (1, 0x80, 0xBF)
  else if b = 0xE0 then some (2, 0xA0, 0xBF)
  else if b = 0xED then some (2, 0x80, 0x9F)
  else if 0xE1 ≤ b && b ≤ 0xEF then some (2, 0x80, 0xBF)
  else if b = 0xF0 then some (3, 0x90, 0xBF)
  else if 0xF1 ≤ b && b ≤ 0xF3 then some (3, 0x80, 0xBF)
  else if b = 0xF4 then some (3, 0x80, 0x8F)
  else none

/-- The bytes that a character can go on with, if the next one is in a range. -/
def goodTail (low high : UInt8) : Nat → List UInt8 → List UInt8
  | count + 1, b :: rest => if low ≤ b && b ≤ high then b :: (rest.take count).takeWhile continues else []
  | _, _ => []

/-- How a piece ends: as a character, before a byte that does not belong to it, or with the bytes. -/
inductive PieceEnd where
  | whole
  | broken
  | cut
deriving DecidableEq, Repr

/-- A piece of some bytes. -/
structure Utf8Piece where
  bytes : List UInt8
  ending : PieceEnd
deriving DecidableEq

/-- The piece that starts with a byte. -/
def firstPiece (b : UInt8) (rest : List UInt8) : Utf8Piece :=
  match following? b with
  | none => ⟨[b], .broken⟩
  | some (count, low, high) =>
    let tail := goodTail low high count rest
    ⟨b :: tail, if tail.length = count then .whole else if (rest.drop tail.length).isEmpty then .cut else .broken⟩

/-- A piece has at least one byte. -/
theorem firstPiece_length_pos (b : UInt8) (rest : List UInt8) : 0 < (firstPiece b rest).bytes.length := by
  unfold firstPiece
  split <;> simp

/-- The pieces of some bytes. -/
def utf8Pieces : List UInt8 → List Utf8Piece
  | [] => []
  | b :: rest => firstPiece b rest :: utf8Pieces ((b :: rest).drop (firstPiece b rest).bytes.length)
termination_by bytes => bytes.length
decreasing_by
  have := firstPiece_length_pos b rest
  simp only [List.length_drop, List.length_cons]
  omega

/-! ## Faults -/

/-- Where bytes stop being UTF-8, and after how many more bytes that shows. It may not show before their end. -/
structure Utf8Fault where
  index : Nat
  length : Option Nat
deriving DecidableEq, Repr

namespace Utf8Fault

/-- The wording of a fault. -/
def message (f : Utf8Fault) : String :=
  match f.length with
  | some length => "invalid utf-8 sequence of " ++ toString length ++ " bytes from index " ++ toString f.index
  | none => "incomplete utf-8 byte sequence from index " ++ toString f.index

end Utf8Fault

/-- The fault of some pieces, the first of which stands at an index. -/
def faultFrom? (index : Nat) : List Utf8Piece → Option Utf8Fault
  | [] => none
  | piece :: rest =>
    match piece.ending with
    | .whole => faultFrom? (index + piece.bytes.length) rest
    | .broken => some ⟨index, some piece.bytes.length⟩
    | .cut => some ⟨index, none⟩

/-- The first fault of some bytes, if they are not UTF-8. -/
def utf8Fault? (bytes : List UInt8) : Option Utf8Fault := faultFrom? 0 (utf8Pieces bytes)

/-- The text of a piece; one that is no character has a mark in its place. -/
def Utf8Piece.text (piece : Utf8Piece) : String := (String.fromUTF8? ⟨piece.bytes.toArray⟩).getD "\uFFFD"

/-- The text of some bytes, with a mark in the place of every piece that is no character. -/
def lossyText (bytes : List UInt8) : String := String.join ((utf8Pieces bytes).map Utf8Piece.text)

end SchemaJournal.Text
