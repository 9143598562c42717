import SchemaJournal.Database.Store
import SchemaJournal.Migration.Runner
import SchemaJournal.Proofs.Text.Search

/-!
# Queries of a store

A store answers a query with some of its records (`mem_of_mem_select`), and with all of them if the name of the
tracking table cannot be taken for a part of another query (`select_applied_perm`). The rows of an answer are read back
as the records (`mapM_toRow`).
-/

namespace SchemaJournal.Database.Store

variable {table sql : String} {s : Store} {r : Record}

/-! ## Which records are selected -/

/-- The odd characters of the query for all records do not depend on a plain name. -/
theorem odd_appliedSql (h : Text.IsPlain table) : (Tracking.appliedSql table).toList.filter Text.isOdd =
    [' ', ',', ' ', ',', ' ', ',', ' ', ' ', ' ', ' ', ' ', ' ', ' ', ',', ' ', ' '] := by
  unfold Tracking.appliedSql Tracking.selection
  rw [String.toList_append, String.toList_append, List.filter_append, List.filter_append, h.odd]
  decide +kernel

theorem odd_latest : "ORDER BY timestamp DESC, id DESC LIMIT 1".toList.filter Text.isOdd =
    [' ', ' ', ' ', ',', ' ', ' ', ' ', ' '] := by
  decide +kernel

theorem asksLatest_appliedSql (h : Text.IsPlain table) : asksLatest (Tracking.appliedSql table) = false := by
  refine Bool.eq_false_iff.mpr fun hl => ?_
  have hodd := Text.odd_infix hl
  rw [odd_appliedSql h, odd_latest, ← Text.occurs_iff_infix] at hodd
  revert hodd
  decide +kernel

theorem mem_of_mem_select (h : r ∈ s.select sql) : r ∈ s.records := by
  unfold select at h
  split at h
  · exact (List.mergeSort_perm _ _).mem_iff.mp (List.mem_reverse.mp (List.mem_of_mem_take h))
  · exact (List.mergeSort_perm _ _).mem_iff.mp h

/-- The query for all records is answered with all of them. -/
theorem select_applied_perm (h : Text.IsPlain table) (s : Store) :
    (s.select (Tracking.appliedSql table)).Perm s.records := by
  unfold select
  rw [asksLatest_appliedSql h]
  exact List.mergeSort_perm _ _

/-! ## How they are answered -/

theorem mapM_toRow (records : List Record) :
    (records.map Record.toRow).mapM Record.ofRow = (.ok records : Except Error (List Record)) := by
  induction records with
  | nil => rfl
  | cons r rest ih =>
    rw [List.map_cons, List.mapM_cons, r.ofRow_toRow, ih]
    rfl

/-- The statements with one of some patterns. -/
def Refuses (failing : List String) (sql : String) : Prop := failing.any (Text.occursIn · sql) = true

/-- The error of a refused statement. -/
def refusal (sql : String) : Error := .database ("simulated failure: " ++ sql)

/-- A statement is refused, or it passes the check. -/
theorem check_cases (s : Store) (sql : String) : (Refuses s.failing sql ∧ s.check sql = .error (refusal sql)) ∨
    (¬Refuses s.failing sql ∧ s.check sql = .ok ()) := by
  by_cases hr : Refuses s.failing sql
  · exact .inl ⟨hr, if_pos hr⟩
  · exact .inr ⟨hr, if_neg hr⟩

/-- Once the tracking table is there, a query is answered unless it is refused. -/
theorem fetch_cases (sql : String) (h : s.tracking = true) :
    (Refuses s.failing sql ∧ s.fetch sql = .error (refusal sql)) ∨
      (¬Refuses s.failing sql ∧ s.fetch sql = .ok ((s.select sql).map Record.toRow)) := by
  unfold fetch
  rcases check_cases s sql with ⟨hr, hc⟩ | ⟨hr, hc⟩
  · rw [hc]
    exact .inl ⟨hr, rfl⟩
  · rw [hc, h]
    exact .inr ⟨hr, rfl⟩

end SchemaJournal.Database.Store
