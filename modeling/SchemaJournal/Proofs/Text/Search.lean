import SchemaJournal.Text.Search

/-!
# Texts in texts

What `startsWith` and `occursIn` find, in terms of characters (`startsWith_iff`, `occursIn_iff`), and the plain names,
which consist of letters, digits and underscores. The other characters are odd ones: a plain name has none
(`IsPlain.odd`), and a pattern can occur only where its odd characters do (`odd_infix`). Integers are written with digits
and the minus sign (`mem_toString`).
-/

namespace SchemaJournal.Text

theorem after?_isSome_iff {start s : List Char} : (after? start s).isSome = true ↔ start <+: s := by
  rw [Option.isSome_iff_exists]
  constructor
  · rintro ⟨rest, h⟩
    exact ⟨rest, (after?_eq_some_iff.mp h).symm⟩
  · rintro ⟨rest, h⟩
    exact ⟨rest, after?_eq_some_iff.mpr h.symm⟩

theorem startsWith_iff {start s : String} : startsWith start s = true ↔ start.toList <+: s.toList :=
  after?_isSome_iff

/-- A pattern occurs where its characters stand together. -/
theorem occurs_iff_infix {pattern s : List Char} : occurs pattern s = true ↔ pattern <:+: s := by
  induction s with
  | nil => rw [List.infix_nil, occurs, List.isEmpty_iff]
  | cons c rest ih => rw [occurs, Bool.or_eq_true, after?_isSome_iff, ih, List.infix_cons_iff]

theorem occursIn_iff {pattern s : String} : occursIn pattern s = true ↔ pattern.toList <:+: s.toList :=
  occurs_iff_infix

/-! ## Plain names -/

/-- A character that plain names do not have. -/
def isOdd (c : Char) : Bool := !(c.isAlphanum || c == '_')

/-- A name of letters, digits and underscores. -/
def IsPlain (name : String) : Prop := name.toList ≠ [] ∧ ∀ c ∈ name.toList, isOdd c = false

instance : DecidablePred IsPlain := fun name =>
  decidable_of_iff (name.toList.isEmpty = false ∧ name.toList.all (!isOdd ·) = true) (by simp [IsPlain])

theorem IsPlain.odd {name : String} (h : IsPlain name) : name.toList.filter isOdd = [] :=
  List.filter_eq_nil_iff.mpr fun c hc => by simp [h.2 c hc]

theorem IsPlain.ne_of_mem {name : String} {c d : Char} (h : IsPlain name) (hc : c ∈ name.toList) (hd : isOdd d = true) :
    c ≠ d :=
  ne_of_apply_ne isOdd (by simp [h.2 c hc, hd])

/-- The odd characters of a pattern stand together where it occurs. -/
theorem odd_infix {pattern s : String} (h : occursIn pattern s = true) :
    pattern.toList.filter isOdd <:+: s.toList.filter isOdd :=
  (occursIn_iff.mp h).filter isOdd

/-! ## Integers -/

/-- An integer is written with digits, and a minus sign if it is negative. -/
theorem mem_toString {n : Int} {c : Char} (hc : c ∈ (toString n).toList) : c = '-' ∨ c.isDigit = true := by
  have hdigits : ∀ n : Nat, c ∈ (toString n).toList → c.isDigit = true := by
    intro n hc
    rw [Nat.toString_eq_ofList_toDigits, String.toList_ofList] at hc
    exact Nat.isDigit_of_mem_toDigits (by decide) (by decide) hc
  cases n with
  | ofNat n => exact .inr (hdigits n hc)
  | negSucc n =>
    have htext : (toString (Int.negSucc n)).toList = '-' :: (toString (n + 1)).toList := String.toList_append
    rw [htext, List.mem_cons] at hc
    exact hc.imp_right (hdigits (n + 1))

end SchemaJournal.Text
