import Mathlib.Data.List.Permutation
import SchemaJournal.Database.Pool
import SchemaJournal.Proofs.Journal.Stem

/-!
# The order of times

Migrations and records are ordered by their stamps: by time, and at the same time by id. This is a linear order
(`Stamp.Le.trans`, `Stamp.Le.total`, `Stamp.Le.antisymm`), so what a journal lists is in order
(`Journal.pairwise_list`), and something new has one place in it (`Stamp.exists_insert`).
-/

namespace SchemaJournal

/-- A time and an id. -/
abbrev Stamp := Int64 × String

namespace Stamp

/-- The first stamp is earlier, or it has the same time and no greater id. -/
def Le (a b : Stamp) : Prop := a.1 < b.1 ∨ a.1 = b.1 ∧ a.2 ≤ b.2

/-- The first stamp is earlier, or it has the same time and a smaller id. -/
def Lt (a b : Stamp) : Prop := a.1 < b.1 ∨ a.1 = b.1 ∧ a.2 < b.2

variable {a b c : Stamp}

theorem Le.trans (h : Le a b) (h' : Le b c) : Le a c := by
  rcases h with h | ⟨h, hid⟩
  · rcases h' with h' | ⟨h', -⟩
    · exact .inl (Int64.lt_trans h h')
    · exact .inl (h' ▸ h)
  · rcases h' with h' | ⟨h', hid'⟩
    · exact .inl (h ▸ h')
    · exact .inr ⟨h.trans h', String.le_trans hid hid'⟩

theorem Le.total (a b : Stamp) : Le a b ∨ Le b a := by
  by_cases h : a.1 = b.1
  · rcases String.le_total a.2 b.2 with hid | hid
    · exact .inl (.inr ⟨h, hid⟩)
    · exact .inr (.inr ⟨h.symm, hid⟩)
  · rcases Int64.lt_or_lt_of_ne h with hlt | hlt
    · exact .inl (.inl hlt)
    · exact .inr (.inl hlt)

theorem Le.antisymm (h : Le a b) (h' : Le b a) : a = b := by
  rcases h with h | ⟨h, hid⟩
  · rcases h' with h' | ⟨h', -⟩
    · exact absurd h' (Int64.lt_asymm h)
    · exact absurd (h' ▸ h) Int64.lt_irrefl
  · rcases h' with h' | ⟨-, hid'⟩
    · exact absurd (h ▸ h') Int64.lt_irrefl
    · exact Prod.ext h (String.le_antisymm hid hid')

theorem Lt.not_le (h : Lt a b) : ¬Le b a := by
  rcases h with h | ⟨h, hid⟩
  · rintro (h' | ⟨h', -⟩)
    · exact Int64.lt_asymm h h'
    · exact Int64.lt_irrefl (h' ▸ h)
  · rintro (h' | ⟨-, hid'⟩)
    · exact Int64.lt_irrefl (h ▸ h')
    · exact String.not_lt.mpr hid' hid

theorem Lt.asymm (h : Lt a b) : ¬Lt b a := fun h' => (Le.total a b).elim h'.not_le h.not_le

/-- What is sorted by stamps is in order. -/
theorem pairwise_mergeSort {α : Type} {before : α → α → Bool} {stamp : α → Stamp}
    (h : ∀ a b, before a b = true ↔ (stamp a).Le (stamp b)) (xs : List α) :
    (xs.mergeSort before).Pairwise fun a b => (stamp a).Le (stamp b) := by
  refine (List.pairwise_mergeSort ?_ ?_ xs).imp fun {a b} => (h a b).mp
  · intro a b c hab hbc
    exact (h a c).mpr (((h a b).mp hab).trans ((h b c).mp hbc))
  · intro a b
    rw [Bool.or_eq_true, h, h]
    exact Le.total _ _

theorem Le.lt_of_ne (h : Le a b) (hne : a ≠ b) : Lt a b := by
  rcases h with h | ⟨h, hid⟩
  · exact .inl h
  · refine .inr ⟨h, String.not_le.mp fun hid' => hne (Prod.ext h (String.le_antisymm hid hid'))⟩

/-- Something with a new stamp is sorted in before all that is later, and nothing else moves. -/
theorem exists_insert {α : Type} {before : α → α → Bool} {stamp : α → Stamp}
    (h : ∀ a b, before a b = true ↔ (stamp a).Le (stamp b)) {xs : List α} {x : α}
    (hnodup : ((xs ++ [x]).map stamp).Nodup) : ∃ earlier later, xs.mergeSort before = earlier ++ later ∧
      (xs ++ [x]).mergeSort before = earlier ++ x :: later ∧ (∀ a ∈ earlier, (stamp a).Lt (stamp x)) ∧
      ∀ b ∈ later, (stamp x).Lt (stamp b) := by
  have hperm : ((xs ++ [x]).mergeSort before).Perm (x :: xs) :=
    (List.mergeSort_perm _ _).trans (List.perm_append_singleton x xs)
  have hsorted := pairwise_mergeSort h (xs ++ [x])
  obtain ⟨earlier, later, hsplit⟩ := List.append_of_mem (hperm.mem_iff.mpr List.mem_cons_self)
  rw [hsplit] at hperm hsorted
  have hstamps : ((earlier ++ x :: later).map stamp).Nodup :=
    ((hperm.trans (List.perm_append_singleton x xs).symm).map stamp).nodup_iff.mpr hnodup
  have hstrict : (earlier ++ x :: later).Pairwise fun a b => (stamp a).Lt (stamp b) :=
    (hsorted.and (List.pairwise_map.mp hstamps)).imp fun hle => hle.1.lt_of_ne hle.2
  obtain ⟨-, hlater, hearlier⟩ := List.pairwise_append.mp hstrict
  refine ⟨earlier, later, ?_, hsplit, fun a ha => hearlier a ha x List.mem_cons_self, (List.pairwise_cons.mp hlater).1⟩
  have hothers : xs.Perm (earlier ++ later) := (hperm.symm.trans List.perm_middle).cons_inv
  have hsame : ((earlier ++ later).map stamp).Nodup :=
    hstamps.sublist ((List.Sublist.refl earlier).append (List.sublist_cons_self x later) |>.map stamp)
  refine List.Perm.eq_of_pairwise (fun a b ha hb hab hba => ?_) (pairwise_mergeSort h xs)
    (hsorted.sublist ((List.Sublist.refl earlier).append (List.sublist_cons_self x later)))
    ((List.mergeSort_perm _ _).trans hothers)
  have ha' : a ∈ earlier ++ later := hothers.mem_iff.mp ((List.mergeSort_perm _ _).mem_iff.mp ha)
  exact List.inj_on_of_nodup_map hsame ha' hb (hab.antisymm hba)

end Stamp

/-! ## Migrations and records -/

/-- The stamp of a migration. -/
def Migration.stamp (m : Migration) : Stamp := (m.timestamp, m.id)

/-- The stamp of a record. -/
def Database.Record.stamp (r : Record) : Stamp := (r.timestamp, r.id)

theorem Migration.before_iff (a b : Migration) : a.before b = true ↔ a.stamp.Le b.stamp := by
  simp [before, Stamp.Le, stamp]

theorem Database.Record.before_iff (a b : Record) : a.before b = true ↔ a.stamp.Le b.stamp := by
  simp [before, Stamp.Le, stamp]

/-- Migrations that are listed from the earliest to the latest are determined by which they are. -/
theorem Migration.eq_of_mem_iff {xs ys : List Migration} (hxs : xs.Pairwise fun a b => a.stamp.Lt b.stamp)
    (hys : ys.Pairwise fun a b => a.stamp.Lt b.stamp) (h : ∀ m, m ∈ xs ↔ m ∈ ys) : xs = ys := by
  have hne : ∀ {a b : Migration}, a.stamp.Lt b.stamp → a ≠ b := by
    rintro a _ hlt rfl
    exact hlt.asymm hlt
  have hperm : xs.Perm ys := (List.perm_ext_iff_of_nodup (hxs.imp hne) (hys.imp hne)).mpr h
  exact hperm.eq_of_pairwise (fun a b _ _ hab hba => absurd hba hab.asymm) hxs hys

/-- What a journal lists is in the order of times. -/
theorem Journal.pairwise_list {j : Journal} {files : FileTree} {migrations : List Migration}
    (h : j.list files = .ok migrations) : migrations.Pairwise fun a b => a.stamp.Le b.stamp := by
  rcases list_cases h with ⟨-, rfl⟩ | ⟨names, read, -, -, rfl⟩
  · exact .nil
  · exact Stamp.pairwise_mergeSort Migration.before_iff read

end SchemaJournal
