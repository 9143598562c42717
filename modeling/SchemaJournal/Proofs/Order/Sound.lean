import Mathlib.Data.List.Nodup
import SchemaJournal.Schema.Order

/-!
# The order puts references first

The graph of a list of tables has the names as nodes, each standing for its last table, and an edge from a table to
every other node that it references (`Order.Edge`). What a visit leaves behind is settled (`Order.Settled`): every node
at most once, and after all nodes that its edges lead to. A visit only appends, never a table on its own path, and its
own node is there in the end (`visits_extend`). Hence an order has every node exactly once (`order_settled`,
`mem_of_order`); if no name is declared twice it is a permutation of the tables (`order_perm`).
-/

namespace SchemaJournal.Order

variable {tables : List Table} {path : List String} {done done' : List Table} {name : String} {t : Table}

/-! ## Nodes and edges -/

/-- A name is a node if a table is declared under it. -/
def IsNode (tables : List Table) (name : String) : Prop := ∃ t, node? tables name = some t

/-- The table of one name references the other node. -/
def Edge (tables : List Table) (a b : String) : Prop :=
  ∃ t, node? tables a = some t ∧ b ∈ dependencies t ∧ IsNode tables b

theorem isNode_of_mem (h : t ∈ tables) : IsNode tables t.name := by
  unfold IsNode node?
  rw [← Option.isSome_iff_exists, List.find?_isSome]
  exact ⟨t, List.mem_reverse.mpr h, beq_self_eq_true _⟩

/-- If no name is declared twice, every table is the node of its name. -/
theorem node?_of_nodup (hd : (tables.map (·.name)).Nodup) (h : t ∈ tables) : node? tables t.name = some t := by
  obtain ⟨u, hu⟩ := isNode_of_mem h
  obtain ⟨hm, hn⟩ := node?_some hu
  rw [hu, List.inj_on_of_nodup_map hd hm h hn]

/-! ## What a visit does -/

theorem visit_none (h : node? tables name = none) : visit tables path done name = .ok done := by
  rw [visit]
  split <;> simp_all

theorem visit_done (h : node? tables name = some t) (hdone : done.any (·.name == name)) :
    visit tables path done name = .ok done := by
  rw [visit]
  split <;> simp_all

theorem visit_cycle (h : node? tables name = some t) (hdone : ¬done.any (·.name == name)) (hp : path.contains name) :
    visit tables path done name = .error (.circularDependency name) := by
  rw [visit]
  split <;> simp_all

/-- Any other node is visited: first what it depends on, then the node itself. -/
theorem visit_fresh (h : node? tables name = some t) (hdone : ¬done.any (·.name == name)) (hp : ¬path.contains name) :
    visit tables path done name =
      (visitAll tables (name :: path) done (dependencies t)).map (· ++ [t]) := by
  rw [visit]
  split
  · simp_all
  · rename_i u hu
    cases h.symm.trans hu
    rw [if_neg hdone, dif_neg hp]
    cases visitAll tables (name :: path) done (dependencies t) <;> rfl

theorem visitAll_cons {rest : List String} (h : visitAll tables path done (name :: rest) = .ok done') :
    ∃ middle, visit tables path done name = .ok middle ∧ visitAll tables path middle rest = .ok done' := by
  rw [visitAll] at h
  cases hv : visit tables path done name with
  | error e => rw [hv] at h; cases h
  | ok middle => rw [hv] at h; exact ⟨middle, rfl, h⟩

/-! ## Settled tables -/

/-- Tables of which each one stands for its name, once, and after everything that its edges lead to. -/
structure Settled (tables done : List Table) : Prop where
  node : ∀ t ∈ done, node? tables t.name = some t
  nodup : (done.map (·.name)).Nodup
  closed : ∀ before t after, done = before ++ t :: after → ∀ target, Edge tables t.name target →
    target ∈ before.map (·.name)

theorem Settled.nil : Settled tables [] where
  node := by simp
  nodup := List.nodup_nil
  closed before t after h := by simp at h

/-- A table is settled once everything is that its edges lead to. -/
theorem Settled.snoc (h : Settled tables done) (ht : node? tables t.name = some t) (hnew : t.name ∉ done.map (·.name))
    (hdeps : ∀ target, Edge tables t.name target → target ∈ done.map (·.name)) : Settled tables (done ++ [t]) where
  node u hu := by
    rcases List.mem_append.mp hu with hu | hu
    · exact h.node u hu
    · rwa [List.mem_singleton.mp hu]
  nodup := by
    rw [List.map_append, List.map_cons, List.map_nil]
    exact h.nodup.append (List.nodup_singleton _) (by simpa using hnew)
  closed before u after hsplit target htarget := by
    rcases List.eq_nil_or_concat after with rfl | ⟨after, v, rfl⟩
    · obtain ⟨rfl, hu⟩ := List.append_inj' hsplit rfl
      cases hu
      exact hdeps target htarget
    · rw [List.concat_eq_append, ← List.cons_append, ← List.append_assoc] at hsplit
      obtain ⟨rfl, -⟩ := List.append_inj' hsplit rfl
      exact h.closed before u after rfl target htarget

/-- What visits leave behind: more tables, none of them on the path, and all of them settled. -/
structure Extends (tables : List Table) (path : List String) (done done' : List Table) : Prop where
  appends : ∃ new, done' = done ++ new ∧ ∀ t ∈ new, t.name ∉ path
  settled : Settled tables done → Settled tables done'

theorem Extends.refl : Extends tables path done done := ⟨⟨[], by simp, by simp⟩, id⟩

theorem Extends.trans {done'' : List Table} (h : Extends tables path done done')
    (h' : Extends tables path done' done'') : Extends tables path done done'' := by
  obtain ⟨new, rfl, hnew⟩ := h.appends
  obtain ⟨new', rfl, hnew'⟩ := h'.appends
  refine ⟨⟨new ++ new', by simp, fun t ht => ?_⟩, h'.settled ∘ h.settled⟩
  rcases List.mem_append.mp ht with ht | ht
  · exact hnew t ht
  · exact hnew' t ht

/-- What is done stays done. -/
theorem Extends.mem (h : Extends tables path done done') (hm : name ∈ done.map (·.name)) :
    name ∈ done'.map (·.name) := by
  obtain ⟨new, rfl, -⟩ := h.appends
  rw [List.map_append]
  exact List.mem_append_left _ hm

/-- A node is settled after a visit to all that it depends on. -/
theorem Extends.settle (h : Extends tables (name :: path) done done') (hn : node? tables name = some t)
    (hdone : ¬done.any (·.name == name)) (hp : ¬path.contains name)
    (hdeps : ∀ target ∈ dependencies t, IsNode tables target → target ∈ done'.map (·.name)) :
    Extends tables path done (done' ++ [t]) := by
  obtain ⟨-, rfl⟩ := node?_some hn
  obtain ⟨new, rfl, hnew⟩ := h.appends
  refine ⟨⟨new ++ [t], by simp, fun u hu => ?_⟩, fun hs => (h.settled hs).snoc hn ?_ fun target hedge => ?_⟩
  · rcases List.mem_append.mp hu with hu | hu
    · exact fun hm => hnew u hu (List.mem_cons_of_mem _ hm)
    · rw [List.mem_singleton.mp hu]
      simpa using hp
  · rw [List.map_append, List.mem_append]
    rintro (hm | hm)
    · exact hdone (by simpa using hm)
    · obtain ⟨u, hu, he⟩ := List.mem_map.mp hm
      exact hnew u hu (by rw [he]; exact List.mem_cons_self)
  · obtain ⟨u, hu, hd, hnode⟩ := hedge
    cases hn.symm.trans hu
    exact hdeps target hd hnode

/-- Visits extend what is done, by everything that is visited. The induction is on the visits themselves. -/
theorem visits_extend (tables : List Table) :
    (∀ path done name, ∀ done', visit tables path done name = .ok done' →
      Extends tables path done done' ∧ (IsNode tables name → name ∈ done'.map (·.name))) ∧
    ∀ path done names, ∀ done', visitAll tables path done names = .ok done' →
      Extends tables path done done' ∧ ∀ name ∈ names, IsNode tables name → name ∈ done'.map (·.name) := by
  apply visit.mutual_induct tables
  case case1 =>
    intro path done name h done' hv
    cases (visit_none h).symm.trans hv
    exact ⟨.refl, fun ⟨t, ht⟩ => by rw [h] at ht; cases ht⟩
  case case2 =>
    intro path done name t h hdone done' hv
    cases (visit_done h hdone).symm.trans hv
    exact ⟨.refl, fun _ => by simpa using hdone⟩
  case case3 =>
    intro path done name t h hdone hp done' hv
    cases (visit_cycle h hdone hp).symm.trans hv
  case case4 =>
    intro path done name t h hdone hp _ ih done' hv
    rw [visit_fresh h hdone hp] at hv
    cases ha : visitAll tables (name :: path) done (dependencies t) with
    | error e => rw [ha] at hv; cases hv
    | ok middle =>
      rw [ha] at hv
      cases hv
      obtain ⟨hext, hdeps⟩ := ih middle ha
      refine ⟨hext.settle h hdone hp hdeps, fun _ => ?_⟩
      rw [List.map_append, ← (node?_some h).2]
      exact List.mem_append_right _ List.mem_cons_self
  case case5 =>
    intro path done done' hv
    rw [visitAll] at hv
    cases hv
    exact ⟨.refl, by simp⟩
  case case6 =>
    intro path done name rest ih ihs done' hv
    obtain ⟨middle, h1, h2⟩ := visitAll_cons hv
    obtain ⟨hext, hname⟩ := ih middle h1
    obtain ⟨hext', hrest⟩ := ihs middle done' h2
    refine ⟨hext.trans hext', fun other ho hnode => ?_⟩
    rcases List.mem_cons.mp ho with rfl | ho
    · exact hext'.mem (hname hnode)
    · exact hrest other ho hnode

/-! ## The order -/

variable {ordered : List Table}

theorem order_settled (h : order tables = .ok ordered) : Settled tables ordered :=
  (((visits_extend tables).2 _ _ _ _ h).1).settled .nil

theorem mem_of_order (h : order tables = .ok ordered) (ht : t ∈ tables) : t.name ∈ ordered.map (·.name) :=
  ((visits_extend tables).2 _ _ _ _ h).2 t.name (List.mem_map_of_mem ht) (isNode_of_mem ht)

/-- If no name is declared twice, an order has the declared tables, each once. -/
theorem order_perm (hd : (tables.map (·.name)).Nodup) (h : order tables = .ok ordered) : ordered.Perm tables := by
  have hs := order_settled h
  refine (List.perm_ext_iff_of_nodup hs.nodup.of_map hd.of_map).mpr fun t => ⟨fun ht => ?_, fun ht => ?_⟩
  · exact (node?_some (hs.node t ht)).1
  · obtain ⟨u, hu, hn⟩ := List.mem_map.mp (mem_of_order h ht)
    have hut : some u = some t :=
      (hs.node u hu).symm.trans ((congrArg (node? tables) hn).trans (node?_of_nodup hd ht))
    rwa [← Option.some.inj hut]

end SchemaJournal.Order
