import SchemaJournal.Json.Number

/-!
# JSON tokens

`Token.ofChars` cuts a text into tokens and skips the blanks between them. Where the text stops being made of tokens
the list ends with a `fault`. A token keeps the spelling of a string or number (`Spelling`, `Numeral`), because a
document may hold spellings that mean nothing, such as half of a surrogate pair, in places that nobody reads.

Every reader of one token takes it off the front of the text, so `ofChars` ends (`readSpelling_length`,
`readNumeral_length`, `dropWord_length`).
-/

namespace SchemaJournal.Json

/-! ## Strings as they are spelled -/

/-- One piece of a string: a character, or a code unit of UTF-16 that stands for a character or half of one. -/
inductive Piece where
  | char (c : Char)
  | unit (n : Nat)
deriving DecidableEq, Repr

/-- A string as it is spelled. -/
abbrev Spelling := List Piece

/-- The character of a code unit outside of the surrogates. -/
def charOfUnit? (n : Nat) : Option Char := if n.isValidChar then some (Char.ofNat n) else none

/-- Whether a code unit opens a surrogate pair. -/
def isHighUnit (n : Nat) : Bool := 0xD800 ≤ n && n < 0xDC00

/-- Whether a code unit closes a surrogate pair. -/
def isLowUnit (n : Nat) : Bool := 0xDC00 ≤ n && n < 0xE000

namespace Spelling

/-- The characters of a spelling; there are none when a surrogate stands alone. -/
def chars? : Spelling → Option (List Char)
  | [] => some []
  | .char c :: rest => (chars? rest).map (c :: ·)
  | .unit high :: .unit low :: rest =>
    if isHighUnit high then
      if isLowUnit low then do
        let c ← charOfUnit? (0x10000 + (high - 0xD800) * 0x400 + (low - 0xDC00))
        let tail ← chars? rest
        return c :: tail
      else
        none
    else do
      let c ← charOfUnit? high
      let tail ← chars? (.unit low :: rest)
      return c :: tail
  | .unit n :: rest => do
    let c ← charOfUnit? n
    let tail ← chars? rest
    return c :: tail

/-- The string that is spelled. -/
def string? (s : Spelling) : Option String := s.chars?.map String.ofList

end Spelling

/-- The value of a hexadecimal digit. -/
def hexDigit? (c : Char) : Option Nat :=
  let n := c.toNat
  if 48 ≤ n && n ≤ 57 then some (n - 48)
  else if 97 ≤ n && n ≤ 102 then some (n - 87)
  else if 65 ≤ n && n ≤ 70 then some (n - 55)
  else none

/-- The character that a short escape means. -/
def shortEscape? : Char → Option Char
  | '"' => some '"'
  | '\\' => some '\\'
  | '/' => some '/'
  | 'b' => some '\x08'
  | 'f' => some '\x0c'
  | 'n' => some '\n'
  | 'r' => some '\r'
  | 't' => some '\t'
  | _ => none

/-- Reads a string after its opening quote, up to and with the closing one. -/
def readSpelling : List Char → Option (Spelling × List Char)
  | [] => none
  | '"' :: rest => some ([], rest)
  | '\\' :: 'u' :: a :: b :: c :: d :: rest => do
    let n := (← hexDigit? a) * 4096 + (← hexDigit? b) * 256 + (← hexDigit? c) * 16 + (← hexDigit? d)
    let (pieces, rest) ← readSpelling rest
    return (.unit n :: pieces, rest)
  | '\\' :: e :: rest => do
    let c ← shortEscape? e
    let (pieces, rest) ← readSpelling rest
    return (.char c :: pieces, rest)
  | c :: rest =>
    if c = '\\' || c.toNat < 0x20 then
      none
    else do
      let (pieces, rest) ← readSpelling rest
      return (.char c :: pieces, rest)

/-- What follows a string is shorter than the text it was read from. -/
theorem readSpelling_length {s : List Char} {p : Spelling} {r : List Char} (h : readSpelling s = some (p, r)) :
    r.length < s.length := by
  fun_induction readSpelling s generalizing p r with
  | case1 => simp at h
  | case2 rest => simp_all
  | case3 a b c d rest ih =>
    simp only [Option.bind_eq_bind, Option.bind_eq_some_iff, Option.pure_def, Option.some.injEq] at h
    obtain ⟨_, _, _, _, _, _, _, _, ⟨ps, r'⟩, hr, he⟩ := h
    cases he
    have := ih hr
    simp only [List.length_cons]; omega
  | case4 e rest _ ih =>
    simp only [Option.bind_eq_bind, Option.bind_eq_some_iff, Option.pure_def, Option.some.injEq] at h
    obtain ⟨_, _, ⟨ps, r'⟩, hr, he⟩ := h
    cases he
    have := ih hr
    simp only [List.length_cons]; omega
  | case5 => simp at h
  | case6 c rest _ _ _ _ ih =>
    simp only [Option.bind_eq_bind, Option.bind_eq_some_iff, Option.pure_def, Option.some.injEq] at h
    obtain ⟨⟨ps, r'⟩, hr, he⟩ := h
    cases he
    have := ih hr
    simp only [List.length_cons]; omega

/-! ## Numbers as they are spelled -/

/-- The digits at the front of a text, and what follows them. -/
def readDigits : List Char → List Nat × List Char
  | [] => ([], [])
  | c :: rest =>
    if c.isDigit then
      let (digits, rest) := readDigits rest
      ((c.toNat - 48) :: digits, rest)
    else
      ([], c :: rest)

/-- Digits are taken off the front. -/
theorem readDigits_length (s : List Char) : (readDigits s).2.length + (readDigits s).1.length = s.length := by
  induction s with
  | nil => rfl
  | cons c rest ih =>
    by_cases h : c.isDigit = true
    · simp only [readDigits, h, if_true, List.length_cons]; omega
    · simp [readDigits, h]

/-- Reads the digits after a point, of which there must be one. -/
def readFraction : List Char → Option (Option (List Nat) × List Char)
  | '.' :: rest =>
    let read := readDigits rest
    if read.1.isEmpty then none else some (some read.1, read.2)
  | rest => some (none, rest)

/-- Reads the exponent after its letter and sign; it must have a digit. -/
def readExponentDigits (negative : Bool) (s : List Char) : Option (Option (Bool × List Nat) × List Char) :=
  let read := readDigits s
  if read.1.isEmpty then none else some (some (negative, read.1), read.2)

/-- Reads an exponent, if there is one. -/
def readExponent : List Char → Option (Option (Bool × List Nat) × List Char)
  | c :: '-' :: rest => if c = 'e' || c = 'E' then readExponentDigits true rest else some (none, c :: '-' :: rest)
  | c :: '+' :: rest => if c = 'e' || c = 'E' then readExponentDigits false rest else some (none, c :: '+' :: rest)
  | c :: rest => if c = 'e' || c = 'E' then readExponentDigits false rest else some (none, c :: rest)
  | [] => some (none, [])

/-- Reads a number without its sign. No digit may follow a leading zero. -/
def readUnsigned (negative : Bool) (s : List Char) : Option (Numeral × List Char) := do
  let (whole, rest) := readDigits s
  if whole.isEmpty || (whole.head? == some 0 && whole.length ≠ 1) then
    none
  else
    let (fraction, rest) ← readFraction rest
    let (exponent, rest) ← readExponent rest
    return (⟨negative, whole, fraction, exponent⟩, rest)

/-- Reads a number. -/
def readNumeral : List Char → Option (Numeral × List Char)
  | '-' :: rest => readUnsigned true rest
  | s => readUnsigned false s

/-- What follows a fraction is no longer than the text it was read from. -/
theorem readFraction_length {s : List Char} {f : Option (List Nat)} {r : List Char}
    (h : readFraction s = some (f, r)) : r.length ≤ s.length := by
  unfold readFraction at h
  split at h
  · rename_i rest
    have := readDigits_length rest
    simp only at h
    split at h
    · simp at h
    · simp only [Option.some.injEq, Prod.mk.injEq] at h
      simp only [List.length_cons]
      rw [← h.2]; omega
  · simp only [Option.some.injEq, Prod.mk.injEq] at h
    exact Nat.le_of_eq (congrArg List.length h.2.symm)

/-- What follows the digits of an exponent is no longer than the text they were read from. -/
theorem readExponentDigits_length {b : Bool} {s : List Char} {e : Option (Bool × List Nat)} {r : List Char}
    (h : readExponentDigits b s = some (e, r)) : r.length ≤ s.length := by
  have := readDigits_length s
  simp only [readExponentDigits] at h
  split at h
  · simp at h
  · simp only [Option.some.injEq, Prod.mk.injEq] at h
    rw [← h.2]; omega

/-- What follows an exponent is no longer than the text it was read from. -/
theorem readExponent_length {s : List Char} {e : Option (Bool × List Nat)} {r : List Char}
    (h : readExponent s = some (e, r)) : r.length ≤ s.length := by
  have stays : ∀ {s t r : List Char} {e : Option (Bool × List Nat)}, s.length ≤ t.length →
      some (none, s) = some (e, r) → r.length ≤ t.length := by
    intro s t r e hs h
    simp only [Option.some.injEq, Prod.mk.injEq] at h
    rw [← h.2]; exact hs
  have reads : ∀ {b : Bool} {s t r : List Char} {e : Option (Bool × List Nat)}, s.length ≤ t.length →
      readExponentDigits b s = some (e, r) → r.length ≤ t.length :=
    fun hs h => Nat.le_trans (readExponentDigits_length h) hs
  unfold readExponent at h
  split at h
  · split at h
    · exact reads (by simp only [List.length_cons]; omega) h
    · exact stays (Nat.le_refl _) h
  · split at h
    · exact reads (by simp only [List.length_cons]; omega) h
    · exact stays (Nat.le_refl _) h
  · split at h
    · exact reads (by simp only [List.length_cons]; omega) h
    · exact stays (Nat.le_refl _) h
  · exact stays (Nat.le_refl _) h

/-- What follows an unsigned number is shorter than the text it was read from. -/
theorem readUnsigned_length {b : Bool} {s : List Char} {n : Numeral} {r : List Char}
    (h : readUnsigned b s = some (n, r)) : r.length < s.length := by
  have hd := readDigits_length s
  simp only [readUnsigned] at h
  split at h
  · simp at h
  · rename_i hw
    simp only [Option.bind_eq_bind, Option.bind_eq_some_iff, Option.pure_def, Option.some.injEq] at h
    obtain ⟨⟨f, r₁⟩, hf, ⟨e, r₂⟩, he, hr⟩ := h
    simp only [Prod.mk.injEq] at hr
    obtain ⟨_, rfl⟩ := hr
    have h₁ := readFraction_length hf
    have h₂ := readExponent_length he
    have : (readDigits s).1.length ≠ 0 := by
      intro h0
      apply hw
      simp [List.length_eq_zero_iff.1 h0]
    simp only at h₁ h₂
    omega

/-- What follows a number is shorter than the text it was read from. -/
theorem readNumeral_length {s : List Char} {n : Numeral} {r : List Char} (h : readNumeral s = some (n, r)) :
    r.length < s.length := by
  unfold readNumeral at h
  split at h
  · have := readUnsigned_length h
    simp only [List.length_cons]; omega
  · exact readUnsigned_length h

/-! ## Tokens -/

/-- A token, or the place where no token can be read. -/
inductive Token where
  | openArray
  | closeArray
  | openObject
  | closeObject
  | colon
  | comma
  | null
  | bool (b : Bool)
  | number (n : Numeral)
  | string (s : Spelling)
  | fault
deriving DecidableEq, Repr

/-- The blanks between tokens. -/
def isSpace (c : Char) : Bool := c == ' ' || c == '\t' || c == '\n' || c == '\r'

/-- The text after a word, if it starts with the word. -/
def dropWord (word : List Char) (s : List Char) : Option (List Char) :=
  match word, s with
  | [], s => some s
  | w :: word, c :: s => if w = c then dropWord word s else none
  | _ :: _, [] => none

/-- What follows a word is no longer than the text. -/
theorem dropWord_length {word s r : List Char} (h : dropWord word s = some r) : r.length ≤ s.length := by
  induction word generalizing s with
  | nil =>
    simp only [dropWord, Option.some.injEq] at h
    exact Nat.le_of_eq (congrArg List.length h.symm)
  | cons w word ih =>
    cases s with
    | nil => simp [dropWord] at h
    | cons c s =>
      simp only [dropWord] at h
      split at h
      · have := ih h
        simp only [List.length_cons]; omega
      · simp at h

namespace Token

/-- The token of a single character. -/
def mark? : Char → Option Token
  | '[' => some .openArray
  | ']' => some .closeArray
  | '{' => some .openObject
  | '}' => some .closeObject
  | ':' => some .colon
  | ',' => some .comma
  | _ => none

/-- The word that starts with a letter, and its token. -/
def word? : Char → Option (List Char × Token)
  | 'n' => some (['u', 'l', 'l'], .null)
  | 't' => some (['r', 'u', 'e'], .bool true)
  | 'f' => some (['a', 'l', 's', 'e'], .bool false)
  | _ => none

/-- Reads the token that starts with a character which is no blank. -/
def read? (c : Char) (rest : List Char) : Option (Token × List Char) :=
  match mark? c with
  | some token => some (token, rest)
  | none =>
    match word? c with
    | some (word, token) => (dropWord word rest).map (token, ·)
    | none =>
      if c = '"' then (readSpelling rest).map fun (s, rest) => (.string s, rest)
      else (readNumeral (c :: rest)).map fun (n, rest) => (.number n, rest)

/-- What follows a token is no longer than what follows its first character. -/
theorem read?_length {c : Char} {rest r : List Char} {t : Token} (h : read? c rest = some (t, r)) :
    r.length ≤ rest.length := by
  unfold read? at h
  split at h
  · simp only [Option.some.injEq, Prod.mk.injEq] at h
    exact Nat.le_of_eq (congrArg List.length h.2.symm)
  · split at h
    · simp only [Option.map_eq_some_iff, Prod.mk.injEq] at h
      obtain ⟨_, hw, _, rfl⟩ := h
      exact dropWord_length hw
    · split at h
      · simp only [Option.map_eq_some_iff, Prod.mk.injEq] at h
        obtain ⟨⟨_, r'⟩, hs, _, hr⟩ := h
        subst hr
        exact Nat.le_of_lt (readSpelling_length hs)
      · simp only [Option.map_eq_some_iff, Prod.mk.injEq] at h
        obtain ⟨⟨_, r'⟩, hn, _, hr⟩ := h
        have := readNumeral_length hn
        subst hr
        simp only [List.length_cons] at this
        exact Nat.le_of_lt_succ this

/-- The tokens of a text, with a fault at the end if a part of it is no token. -/
def ofChars (s : List Char) : List Token :=
  match s with
  | [] => []
  | c :: rest =>
    if isSpace c then
      ofChars rest
    else
      match h : read? c rest with
      | none => [.fault]
      | some (token, rest') =>
        have := read?_length h
        token :: ofChars rest'
termination_by s.length
decreasing_by
  · simp
  · simp only [List.length_cons]; omega

end Token

end SchemaJournal.Json
