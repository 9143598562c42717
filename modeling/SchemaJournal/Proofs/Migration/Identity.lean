import SchemaJournal.Proofs.Json.Numeral
import SchemaJournal.Proofs.Journal.Stem
import SchemaJournal.Proofs.Migration.References

/-!
# What an id says

The id of a migration is its time in decimal, an underscore and its name. A name may have underscores and digits of its
own, but the time has no underscore: the first one in the id is where the time ends. So an id has one time and one name
(`idOf_inj`), and at one time ids are ordered as names are (`idOf_lt_iff`). With a valid name it is made of letters,
digits, `_` and `-` (`isNameChar_of_mem_idOf`). A migration that was built has such an id (`IsBuilt`).
-/

namespace SchemaJournal

/-- Legible numbers are told apart by their texts. -/
theorem Json.Number.IsLegible.eq_of_text {n n' : Number} (h : n.IsLegible) (h' : n'.IsLegible) (ht : n.text = n'.text) :
    n = n' := by
  have hnumeral : n.numeral = n'.numeral := by rw [numeral, numeral, ht]
  have hnumber := h.number
  rw [hnumeral, h'.number] at hnumber
  exact (Option.some.inj hnumber).symm

namespace Migration

/-! ## Times and names -/

/-- The decimal form of a time has no underscore. -/
theorem not_mem_toString (n : Int) : '_' ∉ (toString n).toList := fun hmem =>
  (Text.mem_toString hmem).elim (by decide) (by decide)

/-- A time is told by its decimal form, because a number is read back from its text. -/
theorem eq_of_toString {t t' : Int64} (h : toString t.toInt = toString t'.toInt) : t = t' := by
  have hbounds : ∀ t : Int64, Json.leastSigned ≤ t.toInt ∧ t.toInt < Json.unsignedBound := by
    intro t
    have := Int64.le_toInt t
    have := Int64.toInt_lt t
    simp only [Json.leastSigned, Json.unsignedBound]
    omega
  have hnumber : Json.Number.integer t.toInt (hbounds t) = .integer t'.toInt (hbounds t') :=
    (Json.Number.isLegible_integer _ _).eq_of_text (Json.Number.isLegible_integer _ _) h
  exact Int64.toInt_inj.mp (Json.Number.integer.inj hnumber)

theorem toList_idOf (t : Int64) (n : String) : (idOf t n).toList = (toString t.toInt).toList ++ '_' :: n.toList := by
  simp [idOf]

/-- What stands before the first mark, and what stands after it. -/
theorem split_inj {mark : Char} {before before' after after' : List Char} (hbefore : mark ∉ before)
    (hbefore' : mark ∉ before') (h : before ++ mark :: after = before' ++ mark :: after') :
    before = before' ∧ after = after' := by
  induction before generalizing before' with
  | nil =>
    cases before' with
    | nil => exact ⟨rfl, (List.cons.inj h).2⟩
    | cons c before' =>
      have hc : mark = c := (List.cons.inj h).1
      exact absurd (hc ▸ List.mem_cons_self) hbefore'
  | cons c before ih =>
    obtain ⟨hc, hrest⟩ := not_or.mp (List.mem_cons.not.mp hbefore)
    cases before' with
    | nil =>
      have hmark : c = mark := (List.cons.inj h).1
      exact absurd hmark.symm hc
    | cons c' before' =>
      obtain ⟨hhead, htail⟩ := List.cons.inj h
      obtain ⟨rfl, rfl⟩ := ih hrest (fun hmem => hbefore' (List.mem_cons_of_mem _ hmem)) htail
      exact ⟨by rw [hhead], rfl⟩

/-- An id has one time and one name. -/
theorem idOf_inj {t t' : Int64} {n n' : String} : idOf t n = idOf t' n' ↔ t = t' ∧ n = n' := by
  constructor
  · intro h
    have hlist := congrArg String.toList h
    rw [toList_idOf, toList_idOf] at hlist
    obtain ⟨htime, hname⟩ := split_inj (not_mem_toString _) (not_mem_toString _) hlist
    exact ⟨eq_of_toString (String.toList_inj.mp htime), String.toList_inj.mp hname⟩
  · rintro ⟨rfl, rfl⟩
    rfl

/-- At one time the order of ids is the order of names. -/
theorem idOf_lt_iff {t : Int64} {n n' : String} : idOf t n < idOf t n' ↔ n < n' := by
  have hsame : ∀ start a b : List Char, start ++ a < start ++ b ↔ a < b := by
    intro start a b
    induction start with
    | nil => rfl
    | cons c start ih => rw [List.cons_append, List.cons_append, List.cons_lt_cons_self, ih]
  rw [String.lt_iff, String.lt_iff, toList_idOf, toList_idOf, hsame, List.cons_lt_cons_self]

/-- The id of a time and a valid name is made of the characters of names. -/
theorem isNameChar_of_mem_idOf {t : Int64} {n : String} (h : checkName n = .ok ()) {c : Char}
    (hc : c ∈ (idOf t n).toList) : isNameChar c = true := by
  rw [toList_idOf, List.mem_append, List.mem_cons] at hc
  rcases hc with hc | rfl | hc
  · rcases Text.mem_toString hc with rfl | hdigit
    · rfl
    · simp [isNameChar, Char.isAlphanum, hdigit]
  · rfl
  · exact isNameChar_of_checkName h hc

/-! ## Built migrations -/

/-- The migration was built: its name is valid, and its id is that of its time and name. -/
def IsBuilt (m : Migration) : Prop := ∃ name tables timestamp, build name tables timestamp = .ok m

namespace IsBuilt

variable {m m' : Migration}

theorem id_eq (h : m.IsBuilt) : m.id = idOf m.timestamp m.name := by
  obtain ⟨name, tables, timestamp, hbuild⟩ := h
  obtain ⟨-, ordered, -, rfl⟩ := build_eq_ok hbuild
  rfl

theorem checkName_eq (h : m.IsBuilt) : checkName m.name = .ok () := by
  obtain ⟨name, tables, timestamp, hbuild⟩ := h
  obtain ⟨hname, ordered, -, rfl⟩ := build_eq_ok hbuild
  exact hname

theorem isStem (h : m.IsBuilt) : Path.IsStem m.id := h.id_eq ▸ isStem_idOf h.checkName_eq m.timestamp

/-- Migrations that were built have the same id if they have the same time and name, and only then. -/
theorem id_inj (h : m.IsBuilt) (h' : m'.IsBuilt) : m.id = m'.id ↔ m.timestamp = m'.timestamp ∧ m.name = m'.name := by
  rw [h.id_eq, h'.id_eq]
  exact idOf_inj

end IsBuilt

end Migration

end SchemaJournal
