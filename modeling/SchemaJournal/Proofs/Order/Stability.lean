import Mathlib.Data.Nat.Find
import SchemaJournal.Proofs.Order.Reach

/-!
# The order moves as little as it can

When a declared table is visited, what is done is what the tables before it lead to; its visit adds what else it leads
to, and the table itself at the end (`Stage`, `exists_stage`). So a table stands in the order by the first declared one
that leads to it, and nothing but references moves it (`stable_of_order`). Tables that are in an order already stay as
they are (`order_eq_self`), so ordering them twice is ordering them once (`order_stable`).
-/

namespace SchemaJournal.Order

open Relation

variable {tables ordered done new before after : List Table} {path names : List String} {a b : String} {t u : Table}
  {i k : Nat}

/-! ## Places in a list -/

/-- The first name stands before the second one. -/
def Precedes (tables : List Table) (a b : String) : Prop := [a, b].Sublist (tables.map (·.name))

theorem precedes_append (ha : a ∈ before.map (·.name)) (hb : b ∈ after.map (·.name)) :
    Precedes (before ++ after) a b := by
  unfold Precedes
  rw [List.map_append]
  exact (List.singleton_sublist.mpr ha).append (List.singleton_sublist.mpr hb)

theorem Precedes.append_right (h : Precedes before a b) (after : List Table) : Precedes (before ++ after) a b := by
  unfold Precedes
  rw [List.map_append]
  exact h.trans (List.sublist_append_left _ _)

/-- The first place of a declared table that leads to a name. -/
structure IsFirst (tables : List Table) (name : String) (i : Nat) : Prop where
  reaches : ∃ t, tables[i]? = some t ∧ Reaches tables t.name name
  least : ∀ t ∈ tables.take i, ¬Reaches tables t.name name

/-- The table at a place, to which no table leads that is declared before it. -/
structure IsUnforced (tables : List Table) (t : Table) (i : Nat) : Prop where
  place : tables[i]? = some t
  least : ∀ u ∈ tables.take i, ¬Reaches tables u.name t.name

/-- An order in which each table stands once, by the first declared one that leads to it. -/
structure Stable (tables ordered : List Table) : Prop where
  nodup : (ordered.map (·.name)).Nodup
  first : ∀ t ∈ tables, ∃ i, IsFirst tables t.name i
  before : ∀ a b i k, IsFirst tables a i → IsFirst tables b k → i < k → Precedes ordered a b
  last : ∀ a i t, IsFirst tables a i → tables[i]? = some t → a ≠ t.name → Precedes ordered a t.name
  unforced : ∀ t u i k, IsUnforced tables t i → IsUnforced tables u k → i < k → Precedes ordered t.name u.name

theorem IsUnforced.isFirst (h : IsUnforced tables t i) : IsFirst tables t.name i := ⟨⟨t, h.place, .refl⟩, h.least⟩

theorem exists_isFirst (ht : t ∈ tables) : ∃ i, IsFirst tables t.name i := by
  have hsome : ∃ (i : Nat) (u : Table), tables[i]? = some u ∧ Reaches tables u.name t.name := by
    obtain ⟨i, hi⟩ := List.mem_iff_getElem?.mp ht
    exact ⟨i, t, hi, .refl⟩
  classical
  refine ⟨Nat.find hsome, Nat.find_spec hsome, fun u hu hreach => ?_⟩
  obtain ⟨k, hk⟩ := List.mem_iff_getElem?.mp hu
  rw [List.getElem?_take] at hk
  split at hk
  next hlt => exact Nat.find_min hsome hlt ⟨u, hk, hreach⟩
  · cases hk

/-! ## Stages of an order -/

/-- What is done when a declared table is visited, and what its visit adds. -/
structure Stage (tables before : List Table) (t : Table) (done new : List Table) : Prop where
  mem_done : ∀ b, b ∈ done.map (·.name) ↔ ∃ u ∈ before, Reaches tables u.name b
  mem_new : ∀ b, b ∈ new.map (·.name) ↔ Reaches tables t.name b ∧ b ∉ done.map (·.name)
  last : t.name ∉ done.map (·.name) → ∃ others u, new = others ++ [u] ∧ u.name = t.name

/-- A visit from the start ends with the table that is visited, unless this is done already. -/
theorem visit_last (h : visit tables [] done t.name = .ok (done ++ new)) (ht : IsNode tables t.name)
    (hnew : t.name ∉ done.map (·.name)) : ∃ others u, new = others ++ [u] ∧ u.name = t.name := by
  obtain ⟨u, hu⟩ := ht
  have hfresh : ¬done.any (·.name == t.name) := by simpa using hnew
  rw [visit_fresh hu hfresh (by simp)] at h
  cases hdeps : visitAll tables [t.name] done (dependencies u) with
  | error e =>
    rw [hdeps] at h
    cases h
  | ok middle =>
    rw [hdeps] at h
    obtain ⟨others, rfl, -⟩ := ((visits_extend tables).2 _ _ _ _ hdeps).1.appends
    have hsplit : done ++ (others ++ [u]) = done ++ new := by simpa [Except.map] using h
    exact ⟨others, u, (List.append_cancel_left hsplit).symm, (node?_some hu).2⟩

/-- After visits to some declared tables, what is done is what they lead to. -/
theorem mem_done_iff (h : visitAll tables [] [] (before.map (·.name)) = .ok done) (hsub : before ⊆ tables) :
    b ∈ done.map (·.name) ↔ ∃ u ∈ before, Reaches tables u.name b := by
  have hnodes : ∀ a ∈ before.map (·.name), IsNode tables a := by
    intro a ha
    obtain ⟨u, hu, rfl⟩ := List.mem_map.mp ha
    exact isNode_of_mem (hsub hu)
  rw [mem_visited_iff h hnodes]
  simp

/-- Every declared table has its stage in the order. -/
theorem exists_stage (h : order tables = .ok ordered) (hsplit : tables = before ++ t :: after) :
    ∃ done new rest, ordered = done ++ new ++ rest ∧ Stage tables before t done new := by
  have ht : t ∈ tables := by simp [hsplit]
  have hbefore : before ⊆ tables := by simp [hsplit]
  have hnames : tables.map (·.name) = before.map (·.name) ++ t.name :: after.map (·.name) := by simp [hsplit]
  unfold order at h
  rw [hnames] at h
  obtain ⟨done, hdone, hrest⟩ := visitAll_split h
  obtain ⟨next, hvisit, hafter⟩ := visitAll_cons hrest
  obtain ⟨new, rfl, -⟩ := ((visits_extend tables).1 _ _ _ _ hvisit).1.appends
  obtain ⟨rest, rfl, -⟩ := ((visits_extend tables).2 _ _ _ _ hafter).1.appends
  have hnext : visitAll tables [] [] ((before ++ [t]).map (·.name)) = .ok (done ++ new) := by
    rw [List.map_append, visitAll_append, hdone]
    show visitAll tables [] done [t.name] = _
    rw [visitAll, hvisit]
    exact visitAll.eq_1 ..
  have hboth : ∀ b, b ∈ (done ++ new).map (·.name) ↔ ∃ u ∈ before ++ [t], Reaches tables u.name b := fun b =>
    mem_done_iff hnext (List.append_subset.mpr ⟨hbefore, by simpa using ht⟩)
  have hnodup := (settled_of_visitAll hnext).nodup
  rw [List.map_append] at hnodup
  refine ⟨done, new, rest, rfl, fun b => mem_done_iff hdone hbefore, fun b => ⟨fun hb => ?_, fun h => ?_⟩,
    visit_last hvisit (isNode_of_mem ht)⟩
  · have hfresh : b ∉ done.map (·.name) := fun hmem => (List.nodup_append'.mp hnodup).2.2 hmem hb
    obtain ⟨u, hu, hreach⟩ := (hboth b).mp (by simp_all)
    rcases List.mem_append.mp hu with hu | hu
    · exact absurd ((mem_done_iff hdone hbefore).mpr ⟨u, hu, hreach⟩) hfresh
    · exact ⟨List.mem_singleton.mp hu ▸ hreach, hfresh⟩
  · obtain ⟨hreach, hfresh⟩ := h
    have hmem := (hboth b).mpr ⟨t, by simp, hreach⟩
    rw [List.map_append, List.mem_append] at hmem
    exact hmem.resolve_left hfresh

/-! ## Places in the order -/

theorem mem_of_isFirst (h : order tables = .ok ordered) (ha : IsFirst tables a i) : a ∈ ordered.map (·.name) := by
  obtain ⟨t, ht, hreach⟩ := ha.reaches
  exact (order_settled h).mem_of_reaches (mem_of_order h (List.mem_of_getElem? ht)) hreach

/-- The stage of a table adds what this table is the first to lead to. -/
theorem exists_stage_of_place (h : order tables = .ok ordered) (ht : tables[i]? = some t) :
    ∃ done new rest, ordered = done ++ new ++ rest ∧ Stage tables (tables.take i) t done new ∧
      ∀ a, IsFirst tables a i → a ∈ new.map (·.name) := by
  have hsplit : tables = tables.take i ++ t :: tables.drop (i + 1) := by
    obtain ⟨hlt, rfl⟩ := List.getElem?_eq_some_iff.mp ht
    rw [← List.drop_eq_getElem_cons, List.take_append_drop]
  obtain ⟨done, new, rest, hordered, hstage⟩ := exists_stage h hsplit
  refine ⟨done, new, rest, hordered, hstage, fun a ha => (hstage.mem_new a).mpr ⟨?_, fun hdone => ?_⟩⟩
  · obtain ⟨u, hu, hreach⟩ := ha.reaches
    cases ht.symm.trans hu
    exact hreach
  · obtain ⟨u, hu, hreach⟩ := (hstage.mem_done a).mp hdone
    exact ha.least u hu hreach

/-- What a later table is the first to lead to comes later. -/
theorem precedes_of_lt (h : order tables = .ok ordered) (ha : IsFirst tables a i) (hb : IsFirst tables b k)
    (hlt : i < k) : Precedes ordered a b := by
  obtain ⟨t, ht, -⟩ := ha.reaches
  obtain ⟨done, new, rest, rfl, hstage, hnew⟩ := exists_stage_of_place h ht
  refine precedes_append ?_ ?_
  · rw [List.map_append]
    exact List.mem_append_right _ (hnew a ha)
  · have hmem := mem_of_isFirst h hb
    rw [List.map_append, List.map_append, List.mem_append, List.mem_append] at hmem
    refine hmem.resolve_left fun hearlier => ?_
    rcases hearlier with hdone | hnew
    · obtain ⟨u, hu, hreach⟩ := (hstage.mem_done b).mp hdone
      exact hb.least u (List.take_subset_take_left _ (Nat.le_of_lt hlt) hu) hreach
    · have hplace : t ∈ tables.take k := List.mem_of_getElem? ((List.getElem?_take_of_lt hlt).trans ht)
      exact hb.least t hplace ((hstage.mem_new b).mp hnew).1

theorem precedes_last (h : order tables = .ok ordered) (ha : IsFirst tables a i) (ht : tables[i]? = some t)
    (hne : a ≠ t.name) : Precedes ordered a t.name := by
  obtain ⟨done, new, rest, rfl, hstage, hnew⟩ := exists_stage_of_place h ht
  have hmem := hnew a ha
  obtain ⟨hreach, hfresh⟩ := (hstage.mem_new a).mp hmem
  have hlast : t.name ∉ done.map (·.name) := by
    intro hdone
    obtain ⟨u, hu, hreach'⟩ := (hstage.mem_done _).mp hdone
    exact hfresh ((hstage.mem_done a).mpr ⟨u, hu, hreach'.trans hreach⟩)
  obtain ⟨others, u, rfl, hu⟩ := hstage.last hlast
  have hothers : a ∈ others.map (·.name) := by simpa [hu, hne] using hmem
  rw [← List.append_assoc]
  refine (precedes_append ?_ ?_).append_right rest
  · rw [List.map_append]
    exact List.mem_append_right _ hothers
  · simp [hu]

theorem stable_of_order (h : order tables = .ok ordered) : Stable tables ordered where
  nodup := (order_orders h).nodup
  first _ := exists_isFirst
  before _ _ _ _ := precedes_of_lt h
  last _ _ _ := precedes_last h
  unforced _ _ _ _ ht hu := precedes_of_lt h ht.isFirst hu.isFirst

/-! ## Tables that are in an order -/

/-- Where everything is done already, visits add nothing. -/
theorem visitAll_of_done (h : ∀ name ∈ names, IsNode tables name → name ∈ done.map (·.name)) :
    visitAll tables path done names = .ok done := by
  induction names with
  | nil => rw [visitAll]
  | cons name names ih =>
    obtain ⟨hname, hnames⟩ := List.forall_mem_cons.mp h
    have hvisit : visit tables path done name = .ok done := by
      cases hn : node? tables name with
      | none => exact visit_none hn
      | some t => exact visit_done hn (by simpa using hname ⟨t, hn⟩)
    rw [visitAll, hvisit]
    exact ih hnames

/-- Where all that a table references is done, a visit adds the table. -/
theorem visit_of_done (ht : node? tables t.name = some t) (hnew : t.name ∉ done.map (·.name))
    (hdeps : ∀ target, References tables t.name target → target ∈ done.map (·.name)) :
    visit tables [] done t.name = .ok (done ++ [t]) := by
  have hfresh : ¬done.any (·.name == t.name) := by simpa using hnew
  rw [visit_fresh ht hfresh (by simp), visitAll_of_done fun target htarget hnode =>
    hdeps target (edge_iff_references.mp ⟨t, ht, htarget, hnode⟩)]
  rfl

theorem visitAll_of_backwards (hd : (tables.map (·.name)).Nodup) (h : Backwards tables tables)
    (hsplit : tables = before ++ after) : visitAll tables [] before (after.map (·.name)) = .ok tables := by
  induction after generalizing before with
  | nil =>
    rw [hsplit, List.append_nil]
    exact visitAll.eq_1 ..
  | cons t after ih =>
    have hnew : t.name ∉ before.map (·.name) := by
      have hnodup := hd
      rw [hsplit, List.map_append, List.map_cons, List.nodup_middle, List.nodup_cons] at hnodup
      exact fun hmem => hnodup.1 (List.mem_append_left _ hmem)
    have hnode := node?_of_nodup hd (hsplit ▸ List.mem_append_right before List.mem_cons_self)
    rw [List.map_cons, visitAll, visit_of_done hnode hnew (h before t after hsplit)]
    exact ih (by simpa using hsplit)

/-- Tables stay as they are if each stands once and after all that it references. -/
theorem order_eq_self (hd : (tables.map (·.name)).Nodup) (h : Backwards tables tables) : order tables = .ok tables :=
  visitAll_of_backwards hd h (List.nil_append tables).symm

/-- In an order of tables, references lead backwards also among the tables of the order. -/
theorem Orders.backwards (h : Orders tables ordered) : Backwards ordered ordered := by
  have hlast : ∀ t, IsLast ordered t → IsLast tables t := fun t ht => h.last t ((isLast_iff_mem h.nodup).mp ht)
  intro before t after hsplit target ⟨hne, u, v, hu, hut, hv, hvt, hcolumn⟩
  exact h.references before t after hsplit target ⟨hne, u, v, hlast u hu, hut, hlast v hv, hvt, hcolumn⟩

/-- **Stability.** In the order of tables, one stands before another if the first declared table that leads to it does;
of those that one declared table is the first to lead to, this table is the last. An order of tables is ordered as it
is, and so are all tables that stand once each and after what they reference. -/
theorem order_stable (tables : List Table) :
    (∀ ordered, order tables = .ok ordered → Stable tables ordered ∧ order ordered = .ok ordered) ∧
      ((tables.map (·.name)).Nodup → Backwards tables tables → order tables = .ok tables) :=
  ⟨fun _ h => ⟨stable_of_order h, order_eq_self (order_orders h).nodup (order_orders h).backwards⟩, order_eq_self⟩

/-- Three tables, of which the first one references the last one. -/
def scattered : List Table :=
  let users : Option Reference := some ⟨"users", "id", none⟩
  [(Table.named "posts").withColumn "author" { Column.ofType .uuid with references := users }, .named "tags",
    .named "users"]

/-- Only the table that is referenced moves. -/
theorem scattered_stable : ∃ ordered, order scattered = .ok ordered ∧
    ordered.map (·.name) = ["users", "posts", "tags"] ∧ Stable scattered ordered ∧ order ordered = .ok ordered := by
  have hordered : (order scattered).map (·.map (·.name)) = .ok ["users", "posts", "tags"] := by cbv
  cases h : order scattered with
  | error e =>
    rw [h] at hordered
    cases hordered
  | ok ordered =>
    rw [h] at hordered
    obtain ⟨hstable, hself⟩ := (order_stable scattered).1 ordered h
    exact ⟨ordered, rfl, Except.ok.inj hordered, hstable, hself⟩

end SchemaJournal.Order
