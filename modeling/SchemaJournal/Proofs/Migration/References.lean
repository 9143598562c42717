import Mathlib.Data.List.Permutation
import SchemaJournal.Migration.Build
import SchemaJournal.Proofs.Order.Sound

/-!
# References in a migration

The statements of a migration come table by table (`mem_upStatements`, `upStatements_append`), in the order of the
references, so a statement about a table stands in the block of that table only (`split_block`). It follows that a
migration respects the references in both directions (`RespectsReferences`, `build_respectsReferences`): a foreign key
is added when both of its tables exist, and a table is dropped while all tables that it references are still there.
-/

namespace SchemaJournal

open Ddl Migration

/-! ## Statements and their tables -/

namespace Ddl.Statement

/-- The table that a statement is about. -/
def table : Statement → String
  | .createTable table _ => table
  | .createUniqueIndex table _ => table
  | .addForeignKey table _ _ => table
  | .dropTable table => table
  | .dropTableCascade table => table

/-- The table that a statement creates, if it creates one. -/
def created? : Statement → Option String
  | .createTable table _ => some table
  | _ => none

/-- The table that a statement drops, if it drops one. -/
def dropped? : Statement → Option String
  | .dropTable table => some table
  | .dropTableCascade table => some table
  | _ => none

end Ddl.Statement

/-- What a migration has to do with the tables that it sets up and takes away. -/
structure RespectsReferences (tables : List Table) (up down : List Statement) : Prop where
  /-- The statements of a table stand together, the one that creates it first. -/
  contiguous : ∀ t ∈ tables, ∃ before rest after, up = before ++ createTable t :: rest ++ after ∧
    (∀ s ∈ createTable t :: rest, s.table = t.name) ∧ ∀ s ∈ before ++ after, s.table ≠ t.name
  /-- Every table is created once. -/
  created : (up.filterMap Statement.created?).Perm (tables.map (·.name))
  /-- Every table is dropped once. -/
  dropped : (down.filterMap Statement.dropped?).Perm (tables.map (·.name))
  /-- A foreign key is added, and only after both of its tables were created. -/
  foreignKey : ∀ a ∈ tables, ∀ b ∈ tables, ∀ column ∈ a.columns, ∀ target, column.2.references = some target →
    target.table = b.name → .addForeignKey a.name column.1 target ∈ up ∧
      ∀ before after, up = before ++ .addForeignKey a.name column.1 target :: after →
        createTable a ∈ before ∧ createTable b ∈ before
  /-- A table that another one references is complete before that one is created. -/
  references : ∀ a ∈ tables, ∀ b ∈ tables, a.name ≠ b.name → b.name ∈ a.referencedTables →
    ∀ before after, up = before ++ createTable a :: after →
      (∀ s ∈ setUp b, s ∈ before) ∧ ∀ s ∈ after, s.table ≠ b.name
  /-- A table that another one references is dropped after that one. -/
  referencedDrop : ∀ a ∈ tables, ∀ b ∈ tables, a.name ≠ b.name → b.name ∈ a.referencedTables →
    ∀ before after, down = before ++ .dropTable b.name :: after → .dropTable a.name ∈ before
  /-- The tables are dropped in the opposite order of their creation. -/
  reversed : down.filterMap Statement.dropped? = (up.filterMap Statement.created?).reverse

/-! ## The statements of one table -/

variable {tables ordered : List Table} {t : Table} {s : Statement}

theorem table_of_mem_setUp (h : s ∈ setUp t) : s.table = t.name := by
  rcases List.mem_cons.mp h with rfl | h
  · rfl
  · rcases List.mem_append.mp h with h | h
    · obtain ⟨_, _, rfl⟩ := List.mem_map.mp h
      rfl
    · obtain ⟨_, _, hr⟩ := List.mem_filterMap.mp h
      obtain ⟨_, _, rfl⟩ := Option.map_eq_some_iff.mp hr
      rfl

theorem created?_of_mem_rest (h : s ∈ uniqueIndexes t ++ foreignKeys t) : s.created? = none := by
  rcases List.mem_append.mp h with h | h
  · obtain ⟨_, _, rfl⟩ := List.mem_map.mp h
    rfl
  · obtain ⟨_, _, hr⟩ := List.mem_filterMap.mp h
    obtain ⟨_, _, rfl⟩ := Option.map_eq_some_iff.mp hr
    rfl

theorem addForeignKey_mem_setUp {column : String × Column} {target : Reference} (hc : column ∈ t.columns)
    (hr : column.2.references = some target) : .addForeignKey t.name column.1 target ∈ setUp t :=
  List.mem_cons_of_mem _ <| List.mem_append_right _ <|
    List.mem_filterMap.mpr ⟨column, hc, Option.map_eq_some_iff.mpr ⟨target, hr, rfl⟩⟩

/-! ## The statements of all tables -/

theorem upStatements_append (before after : List Table) :
    upStatements (before ++ t :: after) = upStatements before ++ setUp t ++ upStatements after := by
  simp [upStatements]

theorem mem_upStatements (h : s ∈ upStatements ordered) : ∃ t ∈ ordered, s ∈ setUp t ∧ s.table = t.name := by
  obtain ⟨t, ht, hs⟩ := List.mem_flatMap.mp h
  exact ⟨t, ht, hs, table_of_mem_setUp hs⟩

theorem created_upStatements (ordered : List Table) :
    (upStatements ordered).filterMap Statement.created? = ordered.map (·.name) := by
  induction ordered with
  | nil => rfl
  | cons t rest ih =>
    have hrest : (uniqueIndexes t ++ foreignKeys t).filterMap Statement.created? = [] :=
      List.filterMap_eq_nil_iff.mpr fun s hs => created?_of_mem_rest hs
    have ht : (setUp t).filterMap Statement.created? = [t.name] := by
      simp only [setUp, List.cons_append, List.filterMap_cons, hrest]
      rfl
    rw [upStatements, List.flatMap_cons, List.filterMap_append, ht, List.map_cons, ← ih]
    rfl

/-- The statements that take tables away drop them one by one, the last one first. -/
theorem downStatements_eq (ordered : List Table) :
    downStatements ordered = ordered.reverse.map fun t => .dropTable t.name := by
  rw [downStatements, List.map_eq_flatMap]
  rfl

theorem dropped_downStatements (ordered : List Table) :
    (downStatements ordered).filterMap Statement.dropped? = (ordered.map (·.name)).reverse := by
  rw [downStatements_eq, List.filterMap_map, ← List.map_reverse, ← List.filterMap_eq_map]
  rfl

/-! ## Blocks -/

section Blocks

variable {α : Type} {p : α → Prop} {x : α}

/-- What does not stand in the left part stands after it. -/
theorem split_right : ∀ {left rest before after : List α}, left ++ rest = before ++ x :: after → (∀ y ∈ left, y ≠ x) →
    ∃ b, before = left ++ b ∧ rest = b ++ x :: after
  | [], _, before, _, h, _ => ⟨before, rfl, h⟩
  | y :: left, _, [], _, h, hl => absurd (List.cons.inj h).1 (hl y List.mem_cons_self)
  | y :: left, rest, z :: before, after, h, hl => by
    obtain ⟨rfl, htail⟩ := List.cons.inj h
    obtain ⟨b, rfl, hb⟩ := split_right htail fun w hw => hl w (List.mem_cons_of_mem _ hw)
    exact ⟨b, rfl, hb⟩

/-- What does not stand in the right part stands before it. -/
theorem split_left : ∀ {block right before after : List α}, block ++ right = before ++ x :: after →
    (∀ y ∈ right, y ≠ x) → ∃ c, block = before ++ x :: c ∧ after = c ++ right
  | [], right, before, after, h, hr => by
    rw [List.nil_append] at h
    exact absurd rfl (hr x (by rw [h]; simp))
  | y :: block, right, [], after, h, hr => by
    obtain ⟨rfl, rfl⟩ := List.cons.inj h
    exact ⟨block, rfl, rfl⟩
  | y :: block, right, z :: before, after, h, hr => by
    obtain ⟨rfl, htail⟩ := List.cons.inj h
    obtain ⟨c, rfl, hc⟩ := split_left htail hr
    exact ⟨c, rfl, hc⟩

/-- An element with a property that only a block has stands in this block. -/
theorem split_block {left block right before after : List α} (h : left ++ block ++ right = before ++ x :: after)
    (hl : ∀ y ∈ left, ¬p y) (hr : ∀ y ∈ right, ¬p y) (hx : p x) :
    ∃ b c, block = b ++ x :: c ∧ before = left ++ b ∧ after = c ++ right := by
  rw [List.append_assoc] at h
  obtain ⟨b, rfl, hrest⟩ := split_right h fun y hy e => hl y hy (e ▸ hx)
  obtain ⟨c, rfl, rfl⟩ := split_left hrest fun y hy e => hr y hy (e ▸ hx)
  exact ⟨b, c, rfl, rfl, rfl⟩

end Blocks

/-! ## Settled tables -/

section Settled

variable {a b : Table} (hs : Order.Settled tables ordered)
include hs

theorem name_ne_of_split {before after : List Table} (ho : ordered = before ++ t :: after) :
    ∀ u ∈ before ++ after, u.name ≠ t.name := by
  intro u hu hn
  have hd := hs.nodup
  rw [ho, List.map_append, List.map_cons, List.nodup_middle, List.nodup_cons, ← List.map_append] at hd
  exact hd.1 (List.mem_map.mpr ⟨u, hu, hn⟩)

/-- The statements of the other tables are not about this one. -/
theorem upStatements_block {before after : List Table} (ho : ordered = before ++ t :: after) :
    ∀ s ∈ upStatements before ++ upStatements after, s.table ≠ t.name := by
  intro s hm
  have hm' : s ∈ upStatements (before ++ after) := by rwa [upStatements, List.flatMap_append]
  obtain ⟨u, hu, -, hn⟩ := mem_upStatements hm'
  rw [hn]
  exact name_ne_of_split hs ho u hu

/-- The statement of a table splits the block of this table, and nothing else. -/
theorem split_upStatements {tablesBefore tablesAfter : List Table} (ho : ordered = tablesBefore ++ t :: tablesAfter)
    {before after : List Statement} (hsplit : upStatements ordered = before ++ s :: after) (hst : s.table = t.name) :
    ∃ b c, setUp t = b ++ s :: c ∧ before = upStatements tablesBefore ++ b ∧ after = c ++ upStatements tablesAfter := by
  have hblock := upStatements_block hs ho
  rw [ho, upStatements_append] at hsplit
  exact split_block (p := fun s => s.table = t.name) hsplit (fun y hy => hblock y (List.mem_append_left _ hy))
    (fun y hy => hblock y (List.mem_append_right _ hy)) hst

/-- A table that is referenced by another one stands before it. -/
theorem split_referenced (ha : a ∈ ordered) (hb : b ∈ ordered) (hab : a.name ≠ b.name)
    (href : b.name ∈ a.referencedTables) : ∃ before after, ordered = before ++ a :: after ∧ b ∈ before := by
  obtain ⟨before, after, ho⟩ := List.append_of_mem ha
  have hedge : Order.Edge tables a.name b.name :=
    ⟨a, hs.node a ha, List.mem_filter.mpr ⟨href, by simpa using hab.symm⟩, b, hs.node b hb⟩
  obtain ⟨u, hu, hn⟩ := List.mem_map.mp (hs.closed before a after ho b.name hedge)
  have hmem : u ∈ ordered := by rw [ho]; exact List.mem_append_left _ hu
  have hub : u = b := List.inj_on_of_nodup_map hs.nodup hmem hb hn
  exact ⟨before, after, ho, hub ▸ hu⟩

/-- A foreign key comes after the creation of both of its tables. -/
theorem foreignKey_split (ha : a ∈ ordered) (hb : b ∈ ordered) {column : String × Column} {target : Reference}
    (hc : column ∈ a.columns) (hr : column.2.references = some target) (ht : target.table = b.name)
    {before after : List Statement}
    (hsplit : upStatements ordered = before ++ .addForeignKey a.name column.1 target :: after) :
    createTable a ∈ before ∧ createTable b ∈ before := by
  have key : ∀ {tb ta : List Table}, ordered = tb ++ a :: ta →
      (∀ u ∈ tb, createTable u ∈ before) ∧ createTable a ∈ before := by
    intro tb ta ho
    obtain ⟨p, c, hp, rfl, -⟩ := split_upStatements hs ho hsplit rfl
    refine ⟨fun u hu => List.mem_append_left _ (List.mem_flatMap.mpr ⟨u, hu, List.mem_cons_self⟩), ?_⟩
    cases p with
    | nil => cases (List.cons.inj hp).1
    | cons s p =>
      rw [← (List.cons.inj hp).1]
      exact List.mem_append_right _ List.mem_cons_self
  by_cases hab : a.name = b.name
  · obtain ⟨tb, ta, ho⟩ := List.append_of_mem ha
    have hcreated : createTable a ∈ before := (key ho).2
    cases List.inj_on_of_nodup_map hs.nodup ha hb hab
    exact ⟨hcreated, hcreated⟩
  · have href : b.name ∈ a.referencedTables := by
      rw [← ht]
      exact List.mem_eraseDups.mpr (List.mem_map_of_mem (List.mem_filterMap.mpr ⟨column, hc, hr⟩))
    obtain ⟨tb, ta, ho, hbt⟩ := split_referenced hs ha hb hab href
    exact ⟨(key ho).2, (key ho).1 b hbt⟩

/-- The creation of a table comes after all statements of the tables that it references. -/
theorem createTable_split (ha : a ∈ ordered) (hb : b ∈ ordered) (hab : a.name ≠ b.name)
    (href : b.name ∈ a.referencedTables) {before after : List Statement}
    (hsplit : upStatements ordered = before ++ createTable a :: after) :
    (∀ s ∈ setUp b, s ∈ before) ∧ ∀ s ∈ after, s.table ≠ b.name := by
  obtain ⟨tb, ta, ho, hbt⟩ := split_referenced hs ha hb hab href
  obtain ⟨p, c, hp, rfl, rfl⟩ := split_upStatements hs ho hsplit rfl
  refine ⟨fun s h => List.mem_append_left _ (List.mem_flatMap.mpr ⟨b, hbt, h⟩), fun s h => ?_⟩
  rcases List.mem_append.mp h with h | h
  · have hmem : s ∈ setUp a := by rw [hp]; exact List.mem_append_right _ (List.mem_cons_of_mem _ h)
    rwa [table_of_mem_setUp hmem]
  · obtain ⟨u, hu, -, hn⟩ := mem_upStatements h
    obtain ⟨tb₁, tb₂, rfl⟩ := List.append_of_mem hbt
    rw [hn]
    exact name_ne_of_split hs (ho.trans (by simp)) u
      (List.mem_append_right tb₁ (List.mem_append_right tb₂ (List.mem_cons_of_mem a hu)))

/-- A table is dropped after the tables that reference it. -/
theorem dropTable_split (ha : a ∈ ordered) (hb : b ∈ ordered) (hab : a.name ≠ b.name)
    (href : b.name ∈ a.referencedTables) {before after : List Statement}
    (hsplit : downStatements ordered = before ++ .dropTable b.name :: after) : .dropTable a.name ∈ before := by
  obtain ⟨tb, ta, ho, hbt⟩ := split_referenced hs ha hb hab href
  obtain ⟨tb₁, tb₂, rfl⟩ := List.append_of_mem hbt
  have hsplit' : (ta.reverse ++ a :: tb₂.reverse).map (fun t => Statement.dropTable t.name) ++
      (b :: tb₁.reverse).map (fun t => Statement.dropTable t.name) = before ++ .dropTable b.name :: after := by
    rw [← hsplit, downStatements_eq, ho]
    simp
  have hlater : ∀ s ∈ (ta.reverse ++ a :: tb₂.reverse).map (fun t => Statement.dropTable t.name),
      s ≠ .dropTable b.name := by
    intro s h he
    obtain ⟨u, hu, rfl⟩ := List.mem_map.mp h
    have hu' : u ∈ tb₁ ++ (tb₂ ++ a :: ta) := by
      simp only [List.mem_append, List.mem_reverse, List.mem_cons] at hu ⊢
      tauto
    exact name_ne_of_split hs (ho.trans (by simp)) u hu' (Statement.dropTable.inj he)
  obtain ⟨p, rfl, -⟩ := split_right hsplit' hlater
  exact List.mem_append_left _ (List.mem_map.mpr ⟨a, by simp, rfl⟩)

end Settled

/-! ## Migrations of tables -/

theorem respectsReferences_of_settled (hs : Order.Settled tables ordered) (hp : ordered.Perm tables) :
    RespectsReferences tables (upStatements ordered) (downStatements ordered) where
  contiguous t ht := by
    obtain ⟨before, after, ho⟩ := List.append_of_mem (hp.mem_iff.mpr ht)
    refine ⟨upStatements before, uniqueIndexes t ++ foreignKeys t, upStatements after, ?_, fun s h => ?_,
      upStatements_block hs ho⟩
    · rw [ho, upStatements_append]
      rfl
    · exact table_of_mem_setUp h
  created := by
    rw [created_upStatements]
    exact hp.map _
  dropped := by
    rw [dropped_downStatements]
    exact (List.reverse_perm _).trans (hp.map _)
  foreignKey a ha b hb column hc target hr ht := by
    have ha' := hp.mem_iff.mpr ha
    refine ⟨List.mem_flatMap.mpr ⟨a, ha', addForeignKey_mem_setUp hc hr⟩, fun before after h => ?_⟩
    exact foreignKey_split hs ha' (hp.mem_iff.mpr hb) hc hr ht h
  references a ha b hb hab href before after h :=
    createTable_split hs (hp.mem_iff.mpr ha) (hp.mem_iff.mpr hb) hab href h
  referencedDrop a ha b hb hab href before after h :=
    dropTable_split hs (hp.mem_iff.mpr ha) (hp.mem_iff.mpr hb) hab href h
  reversed := by rw [dropped_downStatements, created_upStatements]

/-- A migration that is built has a valid name, and its statements are those of the tables in their order. -/
theorem build_eq_ok {name : String} {timestamp : Int64} {m : Migration}
    (h : Migration.build name tables timestamp = .ok m) : checkName name = .ok () ∧ ∃ ordered,
      order tables = .ok ordered ∧ m = Migration.new name timestamp ((upStatements ordered).map Statement.text)
        ((downStatements ordered).map Statement.text) := by
  unfold Migration.build at h
  cases hn : checkName name with
  | error e => rw [hn] at h; cases h
  | ok _ =>
    cases ho : order tables with
    | error e => rw [hn, ho] at h; cases h
    | ok ordered =>
      rw [hn, ho] at h
      cases h
      exact ⟨rfl, ordered, rfl, rfl⟩

/-- **References in a migration.** If no name is declared twice, the migration of some tables sets them up in an order
in which it respects their references, and takes them away in the opposite order. -/
theorem build_respectsReferences {name : String} {timestamp : Int64} {m : Migration}
    (hd : (tables.map (·.name)).Nodup) (h : Migration.build name tables timestamp = .ok m) :
    ∃ ordered, order tables = .ok ordered ∧ m.up = (upStatements ordered).map Statement.text ∧
      m.down = (downStatements ordered).map Statement.text ∧
      RespectsReferences tables (upStatements ordered) (downStatements ordered) := by
  obtain ⟨-, ordered, ho, rfl⟩ := build_eq_ok h
  exact ⟨ordered, ho, rfl, rfl, respectsReferences_of_settled (Order.order_settled ho) (Order.order_perm hd ho)⟩

/-- A table with a column for every table that it references. -/
def referring (name : String) (targets : List String) : Table :=
  ⟨name, targets.map fun target =>
    (target, { Column.ofType .uuid with references := some ⟨target, "id", none⟩ }), false⟩

/-- Tables that reference one table in two ways, that table itself, and a table that is not declared. -/
def diamond : List Table :=
  [referring "links" ["tags", "posts", "archive"], referring "tags" ["users"], referring "posts" ["users"],
    referring "users" ["users"]]

theorem order_diamond : order diamond = .ok [referring "users" ["users"], referring "tags" ["users"],
    referring "posts" ["users"], referring "links" ["tags", "posts", "archive"]] := by
  cbv

/-- The migration of the diamond respects its references. -/
theorem build_diamond_respectsReferences : ∃ m, Migration.build "first" diamond 1 = .ok m ∧
    ∃ ordered, order diamond = .ok ordered ∧ m.up = (upStatements ordered).map Statement.text ∧
      m.down = (downStatements ordered).map Statement.text ∧
      RespectsReferences diamond (upStatements ordered) (downStatements ordered) := by
  have hb : ∃ m, Migration.build "first" diamond 1 = .ok m := by
    unfold Migration.build
    rw [order_diamond]
    exact ⟨_, rfl⟩
  obtain ⟨m, hm⟩ := hb
  exact ⟨m, hm, build_respectsReferences (by decide) hm⟩

end SchemaJournal
