import SchemaJournal.Text.Percent

/-!
# Internet addresses

- an address of version 6 is eight pieces of 16 bits; its text may leave out one run of zero pieces, and its last two
  pieces may be written as an address of version 4;
- the text of an address leaves out the first of its longest runs of at least two zero pieces;
- a host whose last part looks like a number has to be an address of version 4.
-/

namespace SchemaJournal.Connection

/-- The parts of a text between separators; there is one more than there are separators. -/
def splitOn (separator : Char) : List Char → List (List Char)
  | [] => [[]]
  | c :: rest =>
    match splitOn separator rest with
    | [] => [[c]]
    | part :: parts => if c = separator then [] :: part :: parts else (c :: part) :: parts

/-- The number that digits of a base spell, if all of them are such digits. -/
def digitsValue? (base : Nat) (cs : List Char) : Option Nat :=
  cs.foldl (fun n c => n.bind fun n => (Text.hexValue? c).bind fun d => if d < base then some (base * n + d) else none)
    (some 0)

/-! ## Version 6 -/

/-- The eight pieces of an address. -/
structure Ipv6 where
  pieces : List Nat
deriving DecidableEq, Repr

namespace Ipv6

/-- A part of the version 4 notation: up to 255, without a zero in front. -/
def decimalPart? (cs : List Char) : Option Nat :=
  if cs.isEmpty || (cs.head? == some '0' && cs.length != 1) then none
  else (digitsValue? 10 cs).filter (· ≤ 255)

/-- A piece in up to four hexadecimal digits. -/
def piece? (cs : List Char) : Option Nat := if cs.isEmpty || 4 < cs.length then none else digitsValue? 16 cs

/-- The last pieces of an address: one of them, or two in the notation of version 4. -/
def lastPieces? (cs : List Char) : Option (List Nat) :=
  if cs.contains '.' then
    match (splitOn '.' cs).mapM decimalPart? with
    | some [a, b, c, d] => some [256 * a + b, 256 * c + d]
    | _ => none
  else
    (piece? cs).map ([·])

/-- The pieces in some parts. -/
def piecesOf? : List (List Char) → Option (List Nat)
  | [] => some []
  | [last] => lastPieces? last
  | part :: rest => do return (← piece? part) :: (← piecesOf? rest)

/-- A text parted at the first pair of colons. -/
def partAtGap : List Char → Option (List Char × List Char)
  | ':' :: ':' :: rest => some ([], rest)
  | c :: rest => (partAtGap rest).map fun (before, after) => (c :: before, after)
  | [] => none

/-- The pieces of a text that has no gap; an empty text has none. -/
def piecesOfText? (cs : List Char) : Option (List Nat) := if cs.isEmpty then some [] else piecesOf? (splitOn ':' cs)

/-- Reads an address. A gap stands for at least one zero piece. -/
def ofText? (cs : List Char) : Option Ipv6 :=
  match partAtGap cs with
  | none => ((piecesOfText? cs).filter (·.length == 8)).map Ipv6.mk
  | some (before, after) => do
    if before.contains '.' then none
    let first ← piecesOfText? before
    let last ← piecesOfText? after
    if first.length + last.length ≤ 7 then
      some ⟨first ++ List.replicate (8 - first.length - last.length) 0 ++ last⟩
    else
      none

/-- How many zeros a list starts with. -/
def leadingZeros (pieces : List Nat) : Nat := (pieces.takeWhile (· == 0)).length

/-- Where the first of the longest runs of zeros starts, and its length. -/
def longestRun (pieces : List Nat) : Nat × Nat :=
  (List.range pieces.length).foldl (fun best start =>
    let length := leadingZeros (pieces.drop start)
    if best.2 < length then (start, length) else best) (0, 0)

/-- Pieces in hexadecimal digits with colons between them. -/
def colonText (pieces : List Nat) : String :=
  ":".intercalate (pieces.map fun n => String.ofList (Nat.toDigits 16 n))

/-- The text of an address. -/
def text (a : Ipv6) : String :=
  let (start, length) := longestRun a.pieces
  if length < 2 then colonText a.pieces
  else colonText (a.pieces.take start) ++ "::" ++ colonText (a.pieces.drop (start + length))

end Ipv6

/-! ## Version 4 -/

namespace Ipv4

/-- A number in the notation of version 4: decimal, octal with a zero in front, or hexadecimal with `0x` in front. -/
def number? (cs : List Char) : Option Nat :=
  match cs with
  | [] => none
  | '0' :: 'x' :: rest | '0' :: 'X' :: rest => digitsValue? 16 rest
  | '0' :: c :: rest => digitsValue? 8 (c :: rest)
  | cs => digitsValue? 10 cs

/-- Whether a text is four decimal numbers up to 255 with dots between them. -/
def isDotted (cs : List Char) : Bool :=
  match (splitOn '.' cs).mapM Ipv6.decimalPart? with
  | some numbers => numbers.length == 4
  | none => false

/-- The parts of a host, without an empty one at the end. -/
def parts (cs : List Char) : List (List Char) :=
  let all := splitOn '.' cs
  if all.getLast? = some [] ∧ 1 < all.length then all.dropLast else all

/-- Whether the last part of a host looks like a number, so that the host has to be an address. -/
def endsInNumber (cs : List Char) : Bool :=
  match (parts cs).getLast? with
  | none => false
  | some last => (!last.isEmpty && last.all Char.isDigit) || (number? last).isSome

/-- Whether a host is an address: at most four numbers, of which the last one fills the bytes that are left. -/
def isAddress (cs : List Char) : Bool :=
  match (parts cs).mapM number? with
  | none => false
  | some numbers =>
    match numbers.reverse with
    | [] => false
    | last :: others =>
      decide (others.length ≤ 3) && others.all (· ≤ 255) && decide (last < 1 <<< (8 * (4 - others.length)))

end Ipv4

end SchemaJournal.Connection
