import SchemaJournal.Proofs.Journal.Chronology
import SchemaJournal.Proofs.Store.Query

/-!
# The latest record

The query for the latest record is answered with a record that no other one follows (`isLatest_of_head?`), and with
nothing only if there are no records (`head?_latest_eq_none_iff`). If a record was added that follows all others, this
is the one (`IsLatest.eq_of_snoc`).
-/

namespace SchemaJournal.Database.Store

variable {table : String} {s : Store} {records : List Record} {r x : Record}

/-- A record that is not before any other one. -/
def IsLatest (records : List Record) (r : Record) : Prop := r ∈ records ∧ ∀ x ∈ records, x.stamp.Le r.stamp

theorem IsLatest.ne_nil (h : IsLatest records r) : records ≠ [] := List.ne_nil_of_mem h.1

theorem asksLatest_latestSql (table : String) : asksLatest (Tracking.latestSql table) = true := by
  refine Text.occursIn_iff.mpr ?_
  unfold Tracking.latestSql
  rw [String.toList_append]
  have hsuffix : "ORDER BY timestamp DESC, id DESC LIMIT 1".toList <:+
      " ORDER BY timestamp DESC, id DESC LIMIT 1".toList := ⟨[' '], by decide⟩
  exact (hsuffix.trans (List.suffix_append _ _)).isInfix

theorem head?_select_latest (table : String) (s : Store) :
    (s.select (Tracking.latestSql table)).head? = (s.records.mergeSort Record.before).getLast? := by
  unfold select
  rw [asksLatest_latestSql, if_pos rfl, List.head?_take, if_neg Nat.one_ne_zero, List.head?_reverse]

theorem head?_latest_eq_none_iff : (s.select (Tracking.latestSql table)).head? = none ↔ s.records = [] := by
  rw [head?_select_latest, List.getLast?_eq_none_iff]
  have hp := List.mergeSort_perm s.records Record.before
  exact ⟨fun h => List.nil_perm.mp (h ▸ hp), fun h => List.perm_nil.mp (h ▸ hp)⟩

theorem isLatest_of_head? (h : (s.select (Tracking.latestSql table)).head? = some r) : IsLatest s.records r := by
  have hmem : r ∈ s.records := mem_of_mem_select (List.mem_of_head? h)
  rw [head?_select_latest] at h
  have hp := List.mergeSort_perm s.records Record.before
  have hsorted := Stamp.pairwise_mergeSort Record.before_iff s.records
  obtain ⟨others, hsplit⟩ := List.getLast?_eq_some_iff.mp h
  rw [hsplit] at hp hsorted
  refine ⟨hmem, fun x hx => ?_⟩
  rcases List.mem_append.mp (hp.mem_iff.mpr hx) with hx | hx
  · exact (List.pairwise_append.mp hsorted).2.2 x hx r List.mem_cons_self
  · rw [List.mem_singleton.mp hx]
    exact .inr ⟨rfl, String.le_refl _⟩

/-- A record that follows all others is the latest one. -/
theorem IsLatest.eq_of_snoc (h : IsLatest (records ++ [r]) x) (hr : ∀ y ∈ records, ¬r.stamp.Le y.stamp) : x = r := by
  rcases List.mem_append.mp h.1 with hx | hx
  · exact absurd (h.2 r (by simp)) (hr x hx)
  · exact List.mem_singleton.mp hx

end SchemaJournal.Database.Store
