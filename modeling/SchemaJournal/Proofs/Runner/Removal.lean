import Mathlib.Data.List.Nodup
import SchemaJournal.Proofs.Runner.Reversal

/-!
# The record that reverting removes

Reverting selects the latest record, looks its migration up under the id of the record, and removes the record with the
id of the migration. The two ids are the same if and only if the id of the record can be the stem of a document's name:
then the selected record is the one that is removed (`down_removes_latest_iff`). Any other id may lead to a document
elsewhere, which has another id (`not_down_removes_latest`).
-/

namespace SchemaJournal

open Database Database.Store World

/-- A migration with the given id was reverted, and one record was removed: the one that was selected. -/
structure Journal.Removes (j : Journal) (w w' : World Memory) (id : String) (r : Record) : Prop where
  selected : id = r.id
  /-- The statements that were executed are those that revert a migration with this id. -/
  reverted : ∃ m, m.id = id ∧ j.find w.files r.id = .ok (some m) ∧
    changes m.down w.database.store.tables = .ok w'.database.store.tables ∧
    w'.database.store.executed = w.database.store.executed ++ m.down.filter isListed
  removed : w'.database.store.records = w.database.store.records.filter (· ≠ r)

variable {records : List Record} {r : Record} {j : Journal} {w w' : World Memory} {id : String}

/-- Of records with different ids, one only is the latest. -/
theorem Database.Store.IsLatest.unique {x : Record} (hnodup : (records.map (·.id)).Nodup) (h : IsLatest records r)
    (h' : IsLatest records x) : x = r :=
  List.inj_on_of_nodup_map hnodup h'.1 h.1 (congrArg Prod.snd ((h.2 x h'.1).antisymm (h'.2 r h.1)))

/-- Without the records that have an id, all others are left if the ids are different. -/
theorem filter_records_of_mem (hnodup : (records.map (·.id)).Nodup) (hr : r ∈ records) :
    records.filter (·.id != r.id) = records.filter (· ≠ r) := by
  refine List.filter_congr fun x hx => ?_
  by_cases hsame : x = r
  · simp [hsame]
  · have hid : x.id ≠ r.id := fun hid => hsame (List.inj_on_of_nodup_map hnodup hx hr hid)
    simp [hsame, hid]

/-- **The record that reverting removes.** One record is the latest, and the record with the given id is removed. If and
only if the id of the latest record is the stem of a document's name, this is the latest record, and the migration that
was reverted is the one with its id. -/
theorem down_removes_latest_iff (hnodup : (w.database.store.records.map (·.id)).Nodup)
    (hdown : j.runner.down w = (.ok (some id), w')) :
    ∃ r, (∀ x, IsLatest w.database.store.records x ↔ x = r) ∧
      w'.database.store.records = w.database.store.records.filter (·.id != id) ∧
      (j.Removes w w' id r ↔ Path.IsStem r.id) := by
  obtain ⟨-, ⟨-, hnone, -⟩ | ⟨r, m, k', hr, hfind, hid, htakes, hk⟩⟩ :=
    (holds_down (k := w.database.store.contents)).ok rfl ⟨rfl, rfl⟩ hdown
  · cases hnone
  · obtain rfl : id = m.id := Option.some.inj hid
    obtain ⟨tables, hchanges, rfl⟩ := takes_down htakes
    have hrecords : w'.database.store.records = w.database.store.records.filter (·.id != m.id) :=
      congrArg Contents.records hk.contents
    have htables : w'.database.store.tables = tables := congrArg Contents.tables hk.contents
    have hexecuted : w'.database.store.executed = w.database.store.executed ++ m.down.filter isListed :=
      congrArg Contents.executed hk.contents
    have hlatest : ∀ x, IsLatest w.database.store.records x ↔ x = r :=
      fun x => ⟨IsLatest.unique hnodup hr, fun h => h ▸ hr⟩
    refine ⟨r, hlatest, hrecords, fun h => (Journal.id_of_find_iff hfind).mp h.selected, fun hstem => ?_⟩
    have hm : m.id = r.id := Journal.id_of_find hstem hfind
    refine ⟨hm, ⟨m, rfl, hfind, htables ▸ hchanges, hexecuted⟩, ?_⟩
    rw [hrecords, hm]
    exact filter_records_of_mem hnodup hr.1

/-- Two migrations of one time are recorded, and a third record, which is older, has the id of no document. -/
def shared : World Memory where
  files := tied.files
  database := ⟨((Store.empty.seed "7_c" "c" 7).seed "7_b" "b" 7).seed "old/1_z" "z" 1, []⟩
  events := []
  clock := 0

/-- Of the two migrations, the one with the greater id is reverted, and its record is removed. -/
theorem shared_down_removes_latest : (shared.database.store.records.map (·.id)).Nodup ∧ ∃ w' r,
    Journal.standard.runner.down shared = (.ok (some "7_c"), w') ∧ IsLatest shared.database.store.records r ∧
    r.id = "7_c" ∧ Journal.standard.Removes shared w' "7_c" r ∧
    w'.database.store.records.map (·.id) = ["7_b", "old/1_z"] := by
  have hnodup : (shared.database.store.records.map (·.id)).Nodup := by decide
  have hlatest : IsLatest shared.database.store.records ⟨"7_c", "c", 7, .ofSeconds 1700000001⟩ := by
    unfold IsLatest Stamp.Le
    decide +kernel
  have hfind : Journal.standard.find shared.files "7_c" = .ok (some (creating 7 "c")) :=
    Attempt.eq_ok_of_toOption (by decide +kernel)
  obtain ⟨id, w', hdown, -, rfl, -⟩ := (holds_down_of_changes (k := shared.database.store.contents) hlatest.1
    (fun _ => hlatest.unique hnodup) hfind (Attempt.eq_ok_of_toOption (by decide +kernel : _ = some []))).exists_ok
      rfl ⟨rfl, rfl⟩
  obtain ⟨r, hr, hrecords, hremoves⟩ := down_removes_latest_iff hnodup hdown
  cases (hr _).mp hlatest
  refine ⟨hnodup, w', _, hdown, hlatest, rfl, hremoves.mpr ⟨by decide, by decide⟩, ?_⟩
  rw [hrecords]
  decide +kernel

/-- The latest record has the id of a document in a directory below the journal. The document has another id, and there
is a record with that. -/
def misplaced : World Memory where
  files := ⟨[(["migrations"], .directory), (["sub", "migrations"], .directory), (["1_a.json", "sub", "migrations"],
    .file "[\"1_a\",\"a\",1,[\"CREATE TABLE a ()\"],[\"DROP TABLE IF EXISTS a\"]]".toUTF8)], by decide, []⟩
  database := ⟨(Store.empty.seed "1_a" "a" 1).seed "sub/1_a" "a" 2, []⟩
  events := []
  clock := 0

/-- Reverting may remove a record that was not selected, and leave the one that was. -/
theorem not_down_removes_latest : Text.IsPlain Journal.standard.table ∧
    (misplaced.database.store.records.map (·.id)).Nodup ∧ ∃ w' r,
    Journal.standard.runner.down misplaced = (.ok (some "1_a"), w') ∧ IsLatest misplaced.database.store.records r ∧
    r.id = "sub/1_a" ∧ ¬Journal.standard.Removes misplaced w' "1_a" r ∧
    w'.database.store.records.map (·.id) = ["sub/1_a"] := by
  have hnodup : (misplaced.database.store.records.map (·.id)).Nodup := by decide
  have hlatest : IsLatest misplaced.database.store.records ⟨"sub/1_a", "a", 2, .ofSeconds 1700000002⟩ := by
    unfold IsLatest Stamp.Le
    decide +kernel
  have hfind : Journal.standard.find misplaced.files "sub/1_a" = .ok (some (creating 1 "a")) :=
    Attempt.eq_ok_of_toOption (by decide +kernel)
  obtain ⟨id, w', hdown, -, rfl, k', htakes, hk⟩ := (holds_down_of_changes (k := misplaced.database.store.contents)
    hlatest.1 (fun _ => hlatest.unique hnodup) hfind
    (Attempt.eq_ok_of_toOption (by decide +kernel : _ = some []))).exists_ok rfl ⟨rfl, rfl⟩
  obtain ⟨tables, -, rfl⟩ := takes_down htakes
  refine ⟨by decide, hnodup, w', _, hdown, hlatest, rfl, fun h => absurd h.selected (by decide), ?_⟩
  have hrecords : w'.database.store.records = misplaced.database.store.records.filter (·.id != "1_a") :=
    congrArg Contents.records hk.contents
  rw [hrecords]
  decide +kernel

end SchemaJournal
