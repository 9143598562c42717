import Mathlib.Data.List.Permutation
import SchemaJournal.Proofs.Order.Complete

/-!
# What visits reach

A visit puts nothing out but what its name leads to (`visits_reach`), and what is settled has everything that it leads
to (`Settled.mem_of_reaches`). Hence what is done after some names were visited is exactly what they lead to
(`mem_visited_iff`).

If the tables have no order, the visits up to the first declared table from which references lead to a cycle succeed,
and the one of this table fails. The table that is reported stands on a cycle, and the first one leads to it
(`order_culprit`).
-/

namespace SchemaJournal.Order

open Relation

variable {tables done done' : List Table} {path names : List String} {name a b : String} {t : Table} {e : Error}

/-- References lead from the first name to the second one, in any number of steps. -/
def Reaches (tables : List Table) (a b : String) : Prop := ReflTransGen (References tables) a b

/-- References lead from a name to a cycle. -/
def ReachesCycle (tables : List Table) (name : String) : Prop :=
  ∃ other, Reaches tables name other ∧ TransGen (References tables) other other

/-! ## Visits in parts -/

theorem visitAll_append (before after : List String) : visitAll tables path done (before ++ after) =
    (visitAll tables path done before >>= fun middle => visitAll tables path middle after) := by
  induction before generalizing done with
  | nil =>
    rw [visitAll]
    rfl
  | cons name before ih =>
    rw [List.cons_append, visitAll, visitAll]
    cases visit tables path done name with
    | error e => rfl
    | ok middle => exact ih

/-- Visits to some names in two parts. -/
theorem visitAll_split {before after : List String} (h : visitAll tables path done (before ++ after) = .ok done') :
    ∃ middle, visitAll tables path done before = .ok middle ∧ visitAll tables path middle after = .ok done' := by
  rw [visitAll_append] at h
  cases hbefore : visitAll tables path done before with
  | error e =>
    rw [hbefore] at h
    cases h
  | ok middle =>
    rw [hbefore] at h
    exact ⟨middle, rfl, h⟩

/-- Visits fail at one of the names, and those before it succeed. -/
theorem visitAll_error (h : visitAll tables path done names = .error e) : ∃ before name after middle,
    names = before ++ name :: after ∧ visitAll tables path done before = .ok middle ∧
      visit tables path middle name = .error e := by
  induction names generalizing done with
  | nil =>
    rw [visitAll] at h
    cases h
  | cons name rest ih =>
    rw [visitAll] at h
    cases hv : visit tables path done name with
    | error e' =>
      rw [hv] at h
      cases h
      exact ⟨[], name, rest, done, rfl, by rw [visitAll], hv⟩
    | ok middle =>
      rw [hv] at h
      obtain ⟨before, other, after, last, rfl, hbefore, hfails⟩ := ih h
      refine ⟨name :: before, other, after, last, rfl, ?_, hfails⟩
      rw [visitAll, hv]
      exact hbefore

/-! ## What is put out -/

/-- What a visit puts out is what its node leads to. The induction is on the visits themselves. -/
theorem visits_reach (tables : List Table) :
    (∀ path done name, ∀ done', visit tables path done name = .ok done' →
      ∀ t ∈ done', t ∈ done ∨ IsNode tables name ∧ Reaches tables name t.name) ∧
    ∀ path done names, ∀ done', visitAll tables path done names = .ok done' →
      ∀ t ∈ done', t ∈ done ∨ ∃ name ∈ names, IsNode tables name ∧ Reaches tables name t.name := by
  apply visit.mutual_induct tables
  case case1 =>
    intro path done name h done' hv t ht
    cases (visit_none h).symm.trans hv
    exact .inl ht
  case case2 =>
    intro path done name u h hdone done' hv t ht
    cases (visit_done h hdone).symm.trans hv
    exact .inl ht
  case case3 =>
    intro path done name u h hdone hp done' hv
    cases (visit_cycle h hdone hp).symm.trans hv
  case case4 =>
    intro path done name u h hdone hp _ ih done' hv t ht
    rw [visit_fresh h hdone hp] at hv
    cases ha : visitAll tables (name :: path) done (dependencies u) with
    | error e =>
      rw [ha] at hv
      cases hv
    | ok middle =>
      rw [ha] at hv
      cases hv
      rcases List.mem_append.mp ht with ht | ht
      · rcases ih middle ha t ht with ht | ⟨target, htarget, hnode, hreach⟩
        · exact .inl ht
        · exact .inr ⟨⟨u, h⟩, hreach.head (edge_iff_references.mp ⟨u, h, htarget, hnode⟩)⟩
      · rw [List.mem_singleton.mp ht, (node?_some h).2]
        exact .inr ⟨⟨u, h⟩, .refl⟩
  case case5 =>
    intro path done done' hv t ht
    rw [visitAll] at hv
    cases hv
    exact .inl ht
  case case6 =>
    intro path done name rest ih ihs done' hv t ht
    obtain ⟨middle, h1, h2⟩ := visitAll_cons hv
    rcases ihs middle done' h2 t ht with ht | ⟨other, hother, hreach⟩
    · exact (ih middle h1 t ht).imp_right fun hreach => ⟨name, List.mem_cons_self, hreach⟩
    · exact .inr ⟨other, List.mem_cons_of_mem _ hother, hreach⟩

/-! ## What is settled -/

namespace Settled

theorem backwards (h : Settled tables done) : Backwards tables done := fun before t after hsplit target href =>
  h.closed before t after hsplit target (edge_iff_references.mpr href)

/-- What is settled leads to nothing else. -/
theorem mem_of_reaches (h : Settled tables done) (ha : a ∈ done.map (·.name)) (hreach : Reaches tables a b) :
    b ∈ done.map (·.name) := by
  rcases reflTransGen_iff_eq_or_transGen.mp hreach with rfl | hleads
  · exact ha
  · obtain ⟨t, ht, rfl⟩ := List.mem_map.mp ha
    obtain ⟨before, after, hsplit⟩ := List.append_of_mem ht
    rw [hsplit, List.map_append]
    exact List.mem_append_left _ (h.backwards.mem_of_leads hsplit hleads)

/-- No cycle can be reached from what is settled. -/
theorem not_reachesCycle (h : Settled tables done) (ha : a ∈ done.map (·.name)) : ¬ReachesCycle tables a :=
  fun ⟨_, hreach, hcycle⟩ => h.backwards.not_cycle h.nodup (h.mem_of_reaches ha hreach) hcycle

end Settled

/-- After visits to some nodes, what is done is settled. -/
theorem settled_of_visitAll (h : visitAll tables [] [] names = .ok done) : Settled tables done :=
  ((visits_extend tables).2 _ _ _ _ h).1.settled .nil

/-- After visits to some nodes, what is done is what they lead to. -/
theorem mem_visited_iff (h : visitAll tables [] [] names = .ok done) (hnodes : ∀ a ∈ names, IsNode tables a) :
    b ∈ done.map (·.name) ↔ ∃ a ∈ names, Reaches tables a b := by
  constructor
  · intro hb
    obtain ⟨t, ht, rfl⟩ := List.mem_map.mp hb
    rcases (visits_reach tables).2 _ _ _ _ h t ht with ht | ⟨a, ha, -, hreach⟩
    · exact absurd ht List.not_mem_nil
    · exact ⟨a, ha, hreach⟩
  · rintro ⟨a, ha, hreach⟩
    exact (settled_of_visitAll h).mem_of_reaches (((visits_extend tables).2 _ _ _ _ h).2 a ha (hnodes a ha)) hreach

/-! ## The table that is reported -/

/-- **Reported cycles.** If tables have no order, the error names a table on a cycle, and the first declared table from
which references lead to any cycle leads to this one. -/
theorem order_culprit (h : order tables = .error e) : ∃ culprit, e = .circularDependency culprit ∧
    TransGen (References tables) culprit culprit ∧ ∃ before t after, tables = before ++ t :: after ∧
      Reaches tables t.name culprit ∧ ∀ u ∈ before, ¬ReachesCycle tables u.name := by
  obtain ⟨before, name, after, middle, hsplit, hbefore, hfails⟩ := visitAll_error h
  obtain ⟨culprit, he, hcycle, hreach⟩ := (visits_fail tables).1 _ _ _ _ hfails fun _ _ hp => absurd hp List.not_mem_nil
  rw [edge_eq_references] at hcycle hreach
  obtain ⟨first, rest, htables, rfl, hrest⟩ := List.map_eq_append_iff.mp hsplit
  obtain ⟨t, last, rfl, rfl, -⟩ := List.map_eq_cons_iff.mp hrest
  refine ⟨culprit, he, hcycle, first, t, last, htables, hreach, fun u hu => ?_⟩
  have hnode : IsNode tables u.name := isNode_of_mem (htables ▸ List.mem_append_left _ hu)
  have hdone := ((visits_extend tables).2 _ _ _ _ hbefore).2 u.name (List.mem_map_of_mem hu) hnode
  exact (settled_of_visitAll hbefore).not_reachesCycle hdone

/-- Two tables that reference each other, and one before them that leads to them. -/
def looped : List Table :=
  let pointing (name target : String) := (Table.named name).withColumn "next"
    { Column.ofType .uuid with references := some ⟨target, "id", none⟩ }
  [.named "tags", pointing "posts" "users", pointing "users" "teams", pointing "teams" "users"]

/-- The table that is reported is not the first one that leads to the cycle. -/
theorem looped_culprit : order looped = .error (.circularDependency "users") ∧
    TransGen (References looped) "users" "users" ∧ ∃ before t after, looped = before ++ t :: after ∧
      Reaches looped t.name "users" ∧ ∀ u ∈ before, ¬ReachesCycle looped u.name := by
  have hfails : order looped = .error (.circularDependency "users") := by cbv
  obtain ⟨culprit, he, hcycle, hfirst⟩ := order_culprit hfails
  cases he
  exact ⟨hfails, hcycle, hfirst⟩

end SchemaJournal.Order
