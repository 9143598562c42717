import SchemaJournal.Json.Token
import SchemaJournal.Json.Value

/-!
# Written strings are read back

A written character is read as one piece of a spelling (`Piece.written`), whatever follows it, and the pieces of a
written string spell the string (`Spelling.string?_written`).
-/

namespace SchemaJournal.Json

/-- How a written character is read: a control character that has no short escape, as its code unit. -/
def Piece.written (c : Char) : Piece :=
  match c with
  | '\x08' | '\x0c' | '\n' | '\r' | '\t' => .char c
  | c => if c.toNat < 0x20 then .unit c.toNat else .char c

/-- How a written string is read. -/
def Spelling.written (s : String) : Spelling := s.toList.map Piece.written

/-! ## Characters -/

/-- A control character is escaped with two digits after two zeros. -/
theorem unitEscape_of_lt : ∀ n < 0x20, unitEscape n = ['\\', 'u', '0', '0', (n / 16).digitChar, (n % 16).digitChar] ∧
    hexDigit? (n / 16).digitChar = some (n / 16) ∧ hexDigit? (n % 16).digitChar = some (n % 16) := by
  decide

theorem readSpelling_unitEscape {n : Nat} (h : n < 0x20) (rest : List Char) :
    readSpelling (unitEscape n ++ rest) = (readSpelling rest).map fun p => (.unit n :: p.1, p.2) := by
  obtain ⟨hescape, hhigh, hlow⟩ := unitEscape_of_lt n h
  have hzero : hexDigit? '0' = some 0 := by decide
  rw [hescape]
  simp only [List.cons_append, List.nil_append, readSpelling, hzero, hhigh, hlow, Option.bind_eq_bind, Option.bind_some]
  rw [show 0 * 4096 + 0 * 256 + n / 16 * 16 + n % 16 = n by omega]
  cases readSpelling rest with
  | none => rfl
  | some p => rfl

theorem readSpelling_plain {c : Char} (hquote : c ≠ '"') (hslash : c ≠ '\\') (hc : ¬c.toNat < 0x20)
    (rest : List Char) : readSpelling (c :: rest) = (readSpelling rest).map fun p => (.char c :: p.1, p.2) := by
  rw [readSpelling.eq_def]
  split
  next h => cases h
  next h => exact absurd (List.cons.inj h).1 hquote
  next h => exact absurd (List.cons.inj h).1 hslash
  next h => exact absurd (List.cons.inj h).1 hslash
  next h =>
    cases h
    rw [if_neg (by simp [hslash, hc])]
    cases readSpelling rest with
    | none => rfl
    | some p => rfl

/-- A written character is read as one piece. -/
theorem readSpelling_escapeChar (c : Char) (rest : List Char) :
    readSpelling (escapeChar c ++ rest) = (readSpelling rest).map fun p => (.written c :: p.1, p.2) := by
  have hshort : ∀ e d, e ≠ 'u' → shortEscape? e = some d →
      readSpelling ('\\' :: e :: rest) = (readSpelling rest).map fun p => (.char d :: p.1, p.2) := by
    intro e d he hd
    rw [readSpelling]
    · rw [hd]
      cases readSpelling rest with
      | none => rfl
      | some p => rfl
    · rintro _ _ _ _ _ rfl
      exact absurd rfl he
  unfold escapeChar
  split
  · exact hshort '"' '"' (by decide) rfl
  · exact hshort '\\' '\\' (by decide) rfl
  · exact hshort 'b' '\x08' (by decide) rfl
  · exact hshort 'f' '\x0c' (by decide) rfl
  · exact hshort 'n' '\n' (by decide) rfl
  · exact hshort 'r' '\r' (by decide) rfl
  · exact hshort 't' '\t' (by decide) rfl
  next hquote hslash hb hf hn hr ht =>
    have hwritten : Piece.written c = if c.toNat < 0x20 then .unit c.toNat else .char c := by
      unfold Piece.written
      split
      · exact absurd rfl hb
      · exact absurd rfl hf
      · exact absurd rfl hn
      · exact absurd rfl hr
      · exact absurd rfl ht
      · rfl
    rw [hwritten]
    split
    next hc => exact readSpelling_unitEscape hc rest
    next hc => exact readSpelling_plain hquote hslash hc rest

/-! ## Strings -/

/-- A written string is read up to its closing quote. -/
theorem readSpelling_written (s : String) (rest : List Char) :
    readSpelling (s.toList.flatMap escapeChar ++ '"' :: rest) = some (.written s, rest) := by
  unfold Spelling.written
  induction s.toList with
  | nil => rfl
  | cons c chars ih =>
    rw [List.flatMap_cons, List.append_assoc, readSpelling_escapeChar, ih]
    rfl

theorem Spelling.chars?_unit {n : Nat} {c : Char} (hc : charOfUnit? n = some c) (hhigh : isHighUnit n = false)
    (rest : Spelling) : chars? (.unit n :: rest) = (chars? rest).map (c :: ·) := by
  have hbind : (do let tail ← chars? rest; return c :: tail) = (chars? rest).map (c :: ·) := by
    cases chars? rest with
    | none => rfl
    | some tail => rfl
  rw [← hbind]
  cases rest with
  | nil => simp [chars?, hc]
  | cons piece rest =>
    cases piece with
    | char d => simp [chars?, hc]
    | unit m => simp [chars?, hc, hhigh]

theorem Spelling.chars?_written_cons (c : Char) (rest : Spelling) :
    chars? (Piece.written c :: rest) = (chars? rest).map (c :: ·) := by
  unfold Piece.written
  split
  · rfl
  · rfl
  · rfl
  · rfl
  · rfl
  · split
    next hc =>
      have hvalid : c.toNat.isValidChar := .inl (by omega)
      refine chars?_unit ?_ ?_ rest
      · rw [charOfUnit?, if_pos hvalid, Char.ofNat_toNat]
      · simp only [isHighUnit, Bool.and_eq_false_iff, decide_eq_false_iff_not]
        omega
    · rfl

/-- A written string is the one that is spelled. -/
theorem Spelling.string?_written (s : String) : (written s).string? = some s := by
  have h : ∀ chars : List Char, chars? (chars.map Piece.written) = some chars := by
    intro chars
    induction chars with
    | nil => rfl
    | cons c chars ih =>
      rw [List.map_cons, chars?_written_cons, ih]
      rfl
  unfold string? written
  rw [h, Option.map_some, String.ofList_toList]

end SchemaJournal.Json
