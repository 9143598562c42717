import SchemaJournal.Json.Token

/-!
# Written numbers are read back

A number is legible if its text is read as the number again. Then it is so before any text that does not go on with the
number (`readNumeral_append`). Every integer is legible (`Number.isLegible_integer`).
-/

namespace SchemaJournal.Json

/-- What may follow a number: nothing that would be read as a part of it. -/
def Delimits (rest : List Char) : Prop := ∀ c ∈ rest.head?, c.isDigit = false ∧ c ≠ '.' ∧ c ≠ 'e' ∧ c ≠ 'E'

variable {s r rest : List Char}

theorem delimits_cons {c : Char} (hc : c.isDigit = false ∧ c ≠ '.' ∧ c ≠ 'e' ∧ c ≠ 'E') : Delimits (c :: rest) := by
  rintro d hd
  cases hd
  exact hc

/-! ## What follows a number -/

theorem readDigits_append (s : List Char) (hr : Delimits rest) :
    readDigits (s ++ rest) = ((readDigits s).1, (readDigits s).2 ++ rest) := by
  induction s with
  | nil =>
    cases rest with
    | nil => rfl
    | cons c rest =>
      have hc := (hr c rfl).1
      simp [readDigits, hc]
  | cons c s ih =>
    rw [List.cons_append, readDigits, readDigits]
    split
    · rw [ih]
    · rfl

theorem readFraction_of_ne {c : Char} (hc : c ≠ '.') : readFraction (c :: s) = some (none, c :: s) := by
  unfold readFraction
  split
  next h => exact absurd (List.cons.inj h).1 hc
  · rfl

theorem readFraction_append {f : Option (List Nat)} (h : readFraction s = some (f, r)) (hr : Delimits rest) :
    readFraction (s ++ rest) = some (f, r ++ rest) := by
  cases s with
  | nil =>
    cases h
    cases rest with
    | nil => rfl
    | cons c rest => exact readFraction_of_ne (hr c rfl).2.1
  | cons c s =>
    by_cases hc : c = '.'
    · subst hc
      rw [List.cons_append]
      simp only [readFraction, readDigits_append s hr] at h ⊢
      split at h
      · cases h
      next hne =>
        cases h
        rw [if_neg hne]
    · cases (readFraction_of_ne hc).symm.trans h
      exact readFraction_of_ne hc

theorem readExponentDigits_append {b : Bool} {e : Option (Bool × List Nat)} (h : readExponentDigits b s = some (e, r))
    (hr : Delimits rest) : readExponentDigits b (s ++ rest) = some (e, r ++ rest) := by
  simp only [readExponentDigits, readDigits_append s hr] at h ⊢
  split at h
  · cases h
  next hne =>
    cases h
    rw [if_neg hne]

/-- The sign of an exponent, and what follows it. -/
theorem readExponent_mark {c : Char} (hc : c = 'e' ∨ c = 'E') (s : List Char) : readExponent (c :: s) =
    match s with
    | '-' :: s => readExponentDigits true s
    | '+' :: s => readExponentDigits false s
    | s => readExponentDigits false s := by
  have hmark : (decide (c = 'e') || decide (c = 'E')) = true := by simpa using hc
  unfold readExponent
  split
  next heq =>
    cases heq
    exact if_pos hmark
  next heq =>
    cases heq
    exact if_pos hmark
  next hminus hplus heq =>
    cases heq
    rw [if_pos hmark]
    split
    · exact absurd rfl (hminus _)
    · exact absurd rfl (hplus _)
    · rfl
  next heq => cases heq

theorem readExponent_of_ne {c : Char} (he : c ≠ 'e') (hE : c ≠ 'E') :
    readExponent (c :: s) = some (none, c :: s) := by
  have hmark : ¬(decide (c = 'e') || decide (c = 'E')) = true := by simp [he, hE]
  unfold readExponent
  split
  next heq =>
    cases heq
    exact if_neg hmark
  next heq =>
    cases heq
    exact if_neg hmark
  next heq =>
    cases heq
    exact if_neg hmark
  next heq => cases heq

theorem readExponent_append {e : Option (Bool × List Nat)} (h : readExponent s = some (e, r)) (hr : Delimits rest) :
    readExponent (s ++ rest) = some (e, r ++ rest) := by
  cases s with
  | nil =>
    cases h
    cases rest with
    | nil => rfl
    | cons c rest => exact readExponent_of_ne (hr c rfl).2.2.1 (hr c rfl).2.2.2
  | cons c s =>
    by_cases hc : c = 'e' ∨ c = 'E'
    · rw [readExponent_mark hc] at h
      rw [List.cons_append, readExponent_mark hc]
      split at h
      · exact readExponentDigits_append h hr
      · exact readExponentDigits_append h hr
      next hminus hplus =>
        cases s with
        | nil => cases h
        | cons d s =>
          have h' := readExponentDigits_append h hr
          rw [List.cons_append] at h' ⊢
          split
          next heq => exact absurd ((List.cons.inj heq).1 ▸ rfl) (hminus s)
          next heq => exact absurd ((List.cons.inj heq).1 ▸ rfl) (hplus s)
          · exact h'
    · rw [not_or] at hc
      cases (readExponent_of_ne hc.1 hc.2).symm.trans h
      exact readExponent_of_ne hc.1 hc.2

theorem readUnsigned_append {b : Bool} {n : Numeral} (h : readUnsigned b s = some (n, r)) (hr : Delimits rest) :
    readUnsigned b (s ++ rest) = some (n, r ++ rest) := by
  simp only [readUnsigned, readDigits_append s hr] at h ⊢
  split at h
  · cases h
  next hne =>
    rw [if_neg hne]
    simp only [Option.bind_eq_bind, Option.bind_eq_some_iff] at h
    obtain ⟨⟨f, r₁⟩, hf, ⟨e, r₂⟩, he, hn⟩ := h
    simp only [Option.bind_eq_bind, readFraction_append hf hr, Option.bind_some, readExponent_append he hr]
    cases hn
    rfl

theorem readNumeral_of_ne {c : Char} (hc : c ≠ '-') : readNumeral (c :: s) = readUnsigned false (c :: s) := by
  unfold readNumeral
  split
  next heq => exact absurd (List.cons.inj heq).1 hc
  · rfl

/-- A number is read in the same way before what delimits it. -/
theorem readNumeral_append {n : Numeral} (h : readNumeral s = some (n, r)) (hr : Delimits rest) :
    readNumeral (s ++ rest) = some (n, r ++ rest) := by
  cases s with
  | nil => cases h
  | cons c s =>
    by_cases hc : c = '-'
    · subst hc
      exact readUnsigned_append (s := s) h hr
    · rw [readNumeral_of_ne hc] at h
      rw [List.cons_append, readNumeral_of_ne hc]
      exact readUnsigned_append h hr

/-- A number starts with a digit or a sign. -/
theorem exists_of_readNumeral {n : Numeral} (h : readNumeral s = some (n, r)) :
    ∃ c t, s = c :: t ∧ (c.isDigit = true ∨ c = '-') := by
  cases s with
  | nil => cases h
  | cons c t =>
    refine ⟨c, t, rfl, ?_⟩
    by_cases hc : c = '-'
    · exact .inr hc
    · rw [readNumeral_of_ne hc] at h
      by_cases hd : c.isDigit = true
      · exact .inl hd
      · simp [readUnsigned, readDigits, hd] at h

/-! ## Legible numbers -/

namespace Number

/-- How the text of a number is read. -/
def numeral (n : Number) : Numeral := ((readNumeral n.text.toList).map (·.1)).getD ⟨false, [], none, none⟩

/-- The text of a number is read as the number. -/
structure IsLegible (n : Number) : Prop where
  read : readNumeral n.text.toList = some (n.numeral, [])
  number : n.numeral.number? = some n

theorem isLegible_of_read {n : Number} {m : Numeral} (h : readNumeral n.text.toList = some (m, []))
    (hm : m.number? = some n) : n.IsLegible := by
  have hn : n.numeral = m := by rw [numeral, h]; rfl
  exact ⟨hn ▸ h, hn ▸ hm⟩

end Number

/-! ## Integers -/

/-- The digits of a natural number. -/
def decimalDigits (n : Nat) : List Nat := (Nat.toDigits 10 n).map (·.toNat - 48)

theorem readDigits_toDigits (n : Nat) : readDigits (Nat.toDigits 10 n) = (decimalDigits n, []) := by
  have h : ∀ s : List Char, (∀ c ∈ s, c.isDigit = true) → readDigits s = (s.map (·.toNat - 48), []) := by
    intro s hs
    induction s with
    | nil => rfl
    | cons c s ih =>
      rw [readDigits, if_pos (hs c List.mem_cons_self), ih fun d hd => hs d (List.mem_cons_of_mem _ hd)]
      rfl
  exact h _ fun c hc => Nat.isDigit_of_mem_toDigits (by decide : 0 < 10) (by decide) hc

theorem ofDigits_decimalDigits (n : Nat) : Numeral.ofDigits (decimalDigits n) = n := by
  have h : Nat.ofDigitChars 10 (Nat.toDigits 10 n) 0 = n := Nat.ofDigitChars_ten_toDigits
  rw [Nat.ofDigitChars_eq_foldl] at h
  rw [Numeral.ofDigits, decimalDigits, List.foldl_map]
  exact h

theorem decimalDigits_ne_nil (n : Nat) : decimalDigits n ≠ [] := by
  rw [decimalDigits, Ne, List.map_eq_nil_iff]
  exact Nat.toDigits_ne_nil

/-- Only zero starts with a zero. -/
theorem head?_decimalDigits {n : Nat} (hn : n ≠ 0) : (decimalDigits n).head? ≠ some 0 := by
  induction n using Nat.strongRecOn with
  | ind n ih =>
    rw [decimalDigits, Nat.toDigits_eq_if (by decide)]
    split
    next hlt =>
      have h : ∀ d < 10, d ≠ 0 → d.digitChar.toNat - 48 ≠ 0 := by decide
      simpa using h n hlt hn
    next hge =>
      obtain ⟨d, ds, hd⟩ := List.exists_cons_of_ne_nil (decimalDigits_ne_nil (n / 10))
      have hne := ih (n / 10) (by omega) (by omega)
      rw [hd] at hne
      rw [List.map_append, show (Nat.toDigits 10 (n / 10)).map (·.toNat - 48) = d :: ds from hd]
      exact hne

theorem readUnsigned_toDigits (b : Bool) (n : Nat) :
    readUnsigned b (Nat.toDigits 10 n) = some (⟨b, decimalDigits n, none, none⟩, []) := by
  have hwhole : ¬((decimalDigits n).isEmpty || ((decimalDigits n).head? == some 0 &&
      decide ((decimalDigits n).length ≠ 1))) = true := by
    by_cases hn : n = 0
    · subst hn
      decide
    · simp [decimalDigits_ne_nil n, head?_decimalDigits hn]
  simp only [readUnsigned, readDigits_toDigits]
  rw [if_neg hwhole]
  rfl

theorem Numeral.number?_positive {digits : List Nat} {n : Number}
    (h : Number.ofInt? (ofDigits digits) = some n) : number? ⟨false, digits, none, none⟩ = some n := by
  simp only [number?, h, Option.isSome_none, Bool.or_false, Bool.false_eq_true, if_false, Option.some_or]

theorem Numeral.number?_negative {digits : List Nat} {n : Number} (hd : ofDigits digits ≠ 0)
    (h : Number.ofInt? (-(ofDigits digits : Int)) = some n) : number? ⟨true, digits, none, none⟩ = some n := by
  simp only [number?, h, hd, Option.isSome_none, Bool.or_false, Bool.false_eq_true, if_false, if_true, Option.some_or]

/-- The text of an integer is read as the integer. -/
theorem Number.isLegible_integer (value : Int) (h : leastSigned ≤ value ∧ value < unsignedBound) :
    (integer value h).IsLegible := by
  have hofInt : ofInt? value = some (.integer value h) := dif_pos h
  cases value with
  | ofNat n =>
    refine isLegible_of_read (m := ⟨false, decimalDigits n, none, none⟩) ?_ ?_
    · have htext : (Number.integer (Int.ofNat n) h).text.toList = Nat.toDigits 10 n := by
        show (toString n).toList = _
        rw [Nat.toString_eq_ofList_toDigits, String.toList_ofList]
      obtain ⟨c, t, hc⟩ := List.exists_cons_of_ne_nil (Nat.toDigits_ne_nil (n := n) (b := 10))
      have hminus : c ≠ '-' := by
        have hmem : c ∈ Nat.toDigits 10 n := by simp [hc]
        have hdigit : c.isDigit = true := Nat.isDigit_of_mem_toDigits (by decide) (by decide) hmem
        rintro rfl
        exact absurd hdigit (by decide)
      rw [htext, hc, readNumeral_of_ne hminus, ← hc]
      exact readUnsigned_toDigits false n
    · refine Numeral.number?_positive ?_
      rw [ofDigits_decimalDigits]
      exact hofInt
  | negSucc n =>
    refine isLegible_of_read (m := ⟨true, decimalDigits (n + 1), none, none⟩) ?_ ?_
    · have htext : (Number.integer (Int.negSucc n) h).text.toList = '-' :: Nat.toDigits 10 (n + 1) := by
        show ("-" ++ toString (n + 1)).toList = _
        simp
      rw [htext]
      exact readUnsigned_toDigits true (n + 1)
    · refine Numeral.number?_negative ?_ ?_
      · rw [ofDigits_decimalDigits]
        exact Nat.succ_ne_zero n
      · rw [ofDigits_decimalDigits]
        exact hofInt

end SchemaJournal.Json
