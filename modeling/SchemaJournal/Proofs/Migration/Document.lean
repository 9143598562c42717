import SchemaJournal.Migration.Journal
import SchemaJournal.Proofs.Json.Document

/-!
# Documents of migrations

The document of every migration is read as the migration (`Migration.readDocument_document`), whatever characters its
strings have and whatever its time is.
-/

namespace SchemaJournal

open Json

namespace Migration

theorem isLegible_integerToValue (n : Int64) : (integerToValue n).IsLegible := Number.isLegible_integer _ _

theorem isLegible_stringsToValue (strings : List String) : (stringsToValue strings).IsLegible := by
  show Value.AreLegible (strings.map .string)
  induction strings with
  | nil => trivial
  | cons s strings ih => exact ⟨trivial, ih⟩

theorem isLegible_toValue (m : Migration) : m.toValue.IsLegible :=
  ⟨trivial, trivial, isLegible_integerToValue m.timestamp, isLegible_stringsToValue m.up,
    isLegible_stringsToValue m.down, trivial⟩

/-! ## Reading outlines -/

theorem readInt64_integer (limit : Nat) (n : Int64) : readInt64 limit (integerToValue n).outline = .ok n := by
  have hn := Number.isLegible_integer n.toInt (by
    have := Int64.le_toInt n
    have := Int64.toInt_lt n
    simp only [leastSigned, unsignedBound]
    omega)
  have hlt : n.toInt < signedBound := by
    have := Int64.toInt_lt n
    simp only [signedBound]
    omega
  show readInt64 limit (.number (Number.numeral (.integer n.toInt _))) = .ok n
  unfold readInt64
  simp only [hn.number, hlt, if_true, Int64.ofInt_toInt]

theorem readList_strings (limit : Nat) (strings : List String) :
    readList readString (limit + 1) (stringsToValue strings).outline = .ok strings :=
  readItems_map .string readSpelled_written strings

/-- What is written of a migration is read as the migration. -/
theorem read_outline (m : Migration) (limit : Nat) : Migration.read (limit + 2) m.toValue.outline = .ok m := by
  have hid : readString (limit + 1) (.string (.written m.id)) = .ok m.id := readSpelled_written m.id
  have hname : readString (limit + 1) (.string (.written m.name)) = .ok m.name := readSpelled_written m.name
  show (do
    let draft ← foldMembers (Draft.step (limit + 1)) ⟨none, none, none, none, none⟩
      (.member (.written "id") (.string (.written m.id)) (.member (.written "name") (.string (.written m.name))
        (.member (.written "timestamp") (integerToValue m.timestamp).outline
          (.member (.written "up") (stringsToValue m.up).outline
            (.member (.written "down") (stringsToValue m.down).outline .closed)))))
    draft.finish) = _
  simp only [foldMembers_written, Draft.step, readField, hid, hname, readInt64_integer, readList_strings]
  rfl

theorem readDocument_document (m : Migration) : readDocument Migration.read (Journal.document m) = .ok m := by
  rw [Journal.document, readDocument_line Migration.read m.isLegible_toValue]
  exact m.read_outline 125

end Migration

end SchemaJournal
