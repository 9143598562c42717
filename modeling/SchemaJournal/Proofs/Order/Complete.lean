import Mathlib.Data.List.Nodup
import Mathlib.Logic.Relation
import SchemaJournal.Proofs.Order.Sound

/-!
# There is an order unless there is a cycle

`References` is the graph of a list of tables in terms of its declarations: the last tables of two names, of which one
references the other (`edge_iff_references`). A visit that fails has come back to a table on its own path, and every
table on the path leads to the one that is visited, so there is a cycle (`visits_fail`). In an order nothing leads back
to where it started (`Backwards.not_cycle`). Hence the tables have an order exactly if their graph has no cycle, and then
the order has the last table of every name, each after what it references (`order_iff_acyclic`).
-/

namespace SchemaJournal.Order

open Relation

variable {tables tables' ordered : List Table} {t u : Table} {name a b : String}

/-! ## The graph of the declarations -/

/-- A table that is the last one declared under its name. -/
def IsLast (tables : List Table) (t : Table) : Prop :=
  ∃ before after, tables = before ++ t :: after ∧ ∀ u ∈ after, u.name ≠ t.name

/-- The last tables of two different names, the first of which has a column that references the second. -/
def References (tables : List Table) (a b : String) : Prop :=
  a ≠ b ∧ ∃ t u, IsLast tables t ∧ t.name = a ∧ IsLast tables u ∧ u.name = b ∧
    ∃ column ∈ t.columns, ∃ target, column.2.references = some target ∧ target.table = b

/-- No references lead from a name back to it. -/
def Acyclic (tables : List Table) : Prop := ∀ name, ¬TransGen (References tables) name name

theorem node?_eq_some_iff : node? tables name = some t ↔ IsLast tables t ∧ t.name = name := by
  unfold node? IsLast
  rw [List.find?_eq_some_iff_append]
  constructor
  · rintro ⟨hn, after, before, hsplit, hafter⟩
    have hname : t.name = name := by simpa using hn
    refine ⟨⟨before.reverse, after.reverse, ?_, fun u hu => ?_⟩, hname⟩
    · rw [← List.reverse_reverse tables, hsplit]
      simp
    · have := hafter u (List.mem_reverse.mp hu)
      rw [hname]
      simpa using this
  · rintro ⟨⟨before, after, rfl, hafter⟩, rfl⟩
    refine ⟨beq_self_eq_true _, after.reverse, before.reverse, by simp, fun u hu => ?_⟩
    simpa using hafter u (List.mem_reverse.mp hu)

/-- The edges between nodes are the references between last tables. -/
theorem edge_iff_references : Edge tables a b ↔ References tables a b := by
  have hdep : ∀ t : Table, b ∈ dependencies t ↔
      (∃ column ∈ t.columns, ∃ target, column.2.references = some target ∧ target.table = b) ∧ b ≠ t.name := by
    intro t
    simp only [dependencies, Table.referencedTables, Table.references, List.mem_filter, List.mem_eraseDups,
      List.mem_map, List.mem_filterMap, bne_iff_ne]
    constructor
    · rintro ⟨⟨target, ⟨column, hc, hr⟩, ht⟩, hne⟩
      exact ⟨⟨column, hc, target, hr, ht⟩, hne⟩
    · rintro ⟨⟨column, hc, target, hr, ht⟩, hne⟩
      exact ⟨⟨target, ⟨column, hc, hr⟩, ht⟩, hne⟩
  constructor
  · rintro ⟨t, ht, hd, u, hu⟩
    obtain ⟨hlast, rfl⟩ := node?_eq_some_iff.mp ht
    obtain ⟨hlast', hname⟩ := node?_eq_some_iff.mp hu
    obtain ⟨href, hne⟩ := (hdep t).mp hd
    exact ⟨hne.symm, t, u, hlast, rfl, hlast', hname, href⟩
  · rintro ⟨hne, t, u, hlast, rfl, hlast', hname, href⟩
    exact ⟨t, node?_eq_some_iff.mpr ⟨hlast, rfl⟩, (hdep t).mpr ⟨href, hne.symm⟩, u,
      node?_eq_some_iff.mpr ⟨hlast', hname⟩⟩

theorem edge_eq_references (tables : List Table) : Edge tables = References tables :=
  funext fun _ => funext fun _ => propext edge_iff_references

/-- If no name is declared twice, every table is the last one of its name. -/
theorem isLast_iff_mem (hd : (tables.map (·.name)).Nodup) : IsLast tables t ↔ t ∈ tables := by
  constructor
  · rintro ⟨before, after, rfl, -⟩
    simp
  · intro ht
    exact (node?_eq_some_iff.mp (node?_of_nodup hd ht)).1

/-- If no name is declared twice, the graph does not depend on the order of the declarations. -/
theorem references_perm (hd : (tables.map (·.name)).Nodup) (hp : tables'.Perm tables) :
    References tables' = References tables := by
  have hd' : (tables'.map (·.name)).Nodup := (hp.map _).nodup_iff.mpr hd
  have hlast : ∀ t, IsLast tables' t ↔ IsLast tables t := fun t => by
    rw [isLast_iff_mem hd', isLast_iff_mem hd, hp.mem_iff]
  funext a b
  simp only [References, hlast]

/-! ## A visit that fails -/

theorem isNode_of_leads (h : TransGen (Edge tables) a b) : IsNode tables a := by
  obtain ⟨target, ⟨t, ht, -⟩, -⟩ := TransGen.head'_iff.mp h
  exact ⟨t, ht⟩

/-- A failing visit has found a cycle, if everything on its path leads to what is visited, and what is visited leads to
the cycle. The induction is on the visits themselves. -/
theorem visits_fail (tables : List Table) :
    (∀ path done name, ∀ e, visit tables path done name = .error e →
      (IsNode tables name → ∀ p ∈ path, TransGen (Edge tables) p name) →
      ∃ culprit, e = .circularDependency culprit ∧ TransGen (Edge tables) culprit culprit ∧
        ReflTransGen (Edge tables) name culprit) ∧
    ∀ path done names, ∀ e, visitAll tables path done names = .error e →
      (∀ name ∈ names, IsNode tables name → ∀ p ∈ path, TransGen (Edge tables) p name) →
      ∃ culprit, e = .circularDependency culprit ∧ TransGen (Edge tables) culprit culprit ∧
        ∃ name ∈ names, ReflTransGen (Edge tables) name culprit := by
  apply visit.mutual_induct tables
  case case1 =>
    intro path done name h e hv
    cases (visit_none h).symm.trans hv
  case case2 =>
    intro path done name t h hdone e hv
    cases (visit_done h hdone).symm.trans hv
  case case3 =>
    intro path done name t h hdone hp e hv hleads
    cases (visit_cycle h hdone hp).symm.trans hv
    exact ⟨name, rfl, hleads ⟨t, h⟩ name (by simpa using hp), .refl⟩
  case case4 =>
    intro path done name t h hdone hp _ ih e hv hleads
    rw [visit_fresh h hdone hp] at hv
    cases ha : visitAll tables (name :: path) done (dependencies t) with
    | ok middle => rw [ha] at hv; cases hv
    | error e' =>
      rw [ha] at hv
      cases hv
      have hpath : ∀ target ∈ dependencies t, IsNode tables target → ∀ p ∈ name :: path,
          TransGen (Edge tables) p target := by
        intro target htarget hnode p hmem
        have hedge : Edge tables name target := ⟨t, h, htarget, hnode⟩
        rcases List.mem_cons.mp hmem with rfl | hmem
        · exact .single hedge
        · exact (hleads ⟨t, h⟩ p hmem).tail hedge
      obtain ⟨culprit, he, hcycle, target, htarget, hreach⟩ := ih e ha hpath
      have hedge : Edge tables name target := ⟨t, h, htarget, isNode_of_leads (hcycle.trans_right hreach)⟩
      exact ⟨culprit, he, hcycle, hreach.head hedge⟩
  case case5 =>
    intro path done e hv
    rw [visitAll] at hv
    cases hv
  case case6 =>
    intro path done name rest ih ihs e hv hleads
    rw [visitAll] at hv
    cases h : visit tables path done name with
    | error e' =>
      rw [h] at hv
      cases hv
      obtain ⟨culprit, he, hcycle, hreach⟩ := ih e h (hleads name List.mem_cons_self)
      exact ⟨culprit, he, hcycle, name, List.mem_cons_self, hreach⟩
    | ok middle =>
      rw [h] at hv
      obtain ⟨culprit, he, hcycle, other, ho, hreach⟩ :=
        ihs middle e hv fun other ho => hleads other (List.mem_cons_of_mem _ ho)
      exact ⟨culprit, he, hcycle, other, List.mem_cons_of_mem _ ho, hreach⟩

/-- Tables without an order have a cycle through the one that is reported. -/
theorem order_error {e : Error} (h : order tables = .error e) :
    ∃ culprit, e = .circularDependency culprit ∧ TransGen (References tables) culprit culprit := by
  rw [← edge_eq_references]
  obtain ⟨culprit, he, hcycle, -⟩ := (visits_fail tables).2 [] [] _ e h fun _ _ _ p hp => absurd hp List.not_mem_nil
  exact ⟨culprit, he, hcycle⟩

/-! ## Orders -/

/-- The last table of every name, each after all that it references. -/
structure Orders (tables ordered : List Table) : Prop where
  names : ∀ name, name ∈ ordered.map (·.name) ↔ name ∈ tables.map (·.name)
  nodup : (ordered.map (·.name)).Nodup
  last : ∀ t ∈ ordered, IsLast tables t
  references : ∀ before t after, ordered = before ++ t :: after → ∀ target, References tables t.name target →
    target ∈ before.map (·.name)

theorem order_orders (h : order tables = .ok ordered) : Orders tables ordered := by
  have hs := order_settled h
  have hlast : ∀ t ∈ ordered, IsLast tables t := fun t ht => (node?_eq_some_iff.mp (hs.node t ht)).1
  refine ⟨fun name => ⟨fun hn => ?_, fun hn => ?_⟩, hs.nodup, hlast, fun before t after hsplit target href => ?_⟩
  · obtain ⟨t, ht, rfl⟩ := List.mem_map.mp hn
    obtain ⟨before, after, htables, -⟩ := hlast t ht
    rw [htables]
    exact List.mem_map_of_mem (by simp)
  · obtain ⟨t, ht, rfl⟩ := List.mem_map.mp hn
    exact mem_of_order h ht
  · exact hs.closed before t after hsplit target (edge_iff_references.mpr href)

/-- References lead from a table to tables before it only. -/
def Backwards (tables ordered : List Table) : Prop :=
  ∀ before t after, ordered = before ++ t :: after → ∀ target, References tables t.name target →
    target ∈ before.map (·.name)

namespace Backwards

/-- What references lead to from a table stands before it. -/
theorem mem_of_leads (h : Backwards tables ordered) {before after : List Table}
    (hsplit : ordered = before ++ t :: after) (hleads : TransGen (References tables) t.name b) :
    b ∈ before.map (·.name) := by
  induction hleads with
  | single href => exact h before t after hsplit _ href
  | tail _ href ih =>
    obtain ⟨u, hu, hname⟩ := List.mem_map.mp ih
    obtain ⟨first, second, rfl⟩ := List.append_of_mem hu
    have hsplit' : ordered = first ++ u :: (second ++ t :: after) := by simpa using hsplit
    have hfirst := h first u _ hsplit' _ (hname ▸ href)
    rw [List.map_append]
    exact List.mem_append_left _ hfirst

/-- Nothing leads back to where it started, if every name stands in one place. -/
theorem not_cycle (h : Backwards tables ordered) (hnodup : (ordered.map (·.name)).Nodup)
    (hname : name ∈ ordered.map (·.name)) : ¬TransGen (References tables) name name := by
  intro hcycle
  obtain ⟨t, ht, rfl⟩ := List.mem_map.mp hname
  obtain ⟨before, after, hsplit⟩ := List.append_of_mem ht
  rw [hsplit, List.map_append, List.map_cons, List.nodup_middle, List.nodup_cons] at hnodup
  exact hnodup.1 (List.mem_append_left _ (h.mem_of_leads hsplit hcycle))

end Backwards

/-- A name that references another one is declared. -/
theorem References.declared (h : References tables a b) : a ∈ tables.map (·.name) := by
  obtain ⟨-, t, -, ⟨before, after, rfl, -⟩, rfl, -⟩ := h
  exact List.mem_map_of_mem (by simp)

/-- Tables that have an order have no cycle. -/
theorem Orders.acyclic (h : Orders tables ordered) : Acyclic tables := by
  intro name hcycle
  obtain ⟨target, href, -⟩ := TransGen.head'_iff.mp hcycle
  exact Backwards.not_cycle h.references h.nodup ((h.names name).mpr href.declared) hcycle

theorem exists_order_iff : (∃ ordered, order tables = .ok ordered) ↔ Acyclic tables := by
  constructor
  · rintro ⟨ordered, h⟩
    exact (order_orders h).acyclic
  · intro hacyclic
    cases h : order tables with
    | ok ordered => exact ⟨ordered, rfl⟩
    | error e =>
      obtain ⟨culprit, -, hcycle⟩ := order_error h
      exact absurd hcycle (hacyclic culprit)

/-- **Orders and cycles.** Tables have an order exactly if no references lead from a name back to it. An order has the
last table of every name, each after all that it references. If no name is declared twice it has the declared tables,
and whether there is one does not depend on the order in which they are declared. -/
theorem order_iff_acyclic (tables : List Table) :
    ((∃ ordered, order tables = .ok ordered) ↔ Acyclic tables) ∧
      (∀ ordered, order tables = .ok ordered → Orders tables ordered) ∧
      ((tables.map (·.name)).Nodup → (∀ ordered, order tables = .ok ordered → ordered.Perm tables) ∧
        ∀ tables', tables'.Perm tables →
          ((∃ ordered, order tables' = .ok ordered) ↔ ∃ ordered, order tables = .ok ordered)) := by
  refine ⟨exists_order_iff, fun ordered => order_orders, fun hd => ⟨fun ordered => order_perm hd, fun tables' hp => ?_⟩⟩
  rw [exists_order_iff, exists_order_iff, Acyclic, Acyclic, references_perm hd hp]

end SchemaJournal.Order
