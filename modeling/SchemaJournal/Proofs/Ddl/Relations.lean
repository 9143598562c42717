import Mathlib.Data.List.Nodup
import Mathlib.Data.List.Pairwise
import SchemaJournal.Proofs.Schema.Validity
import SchemaJournal.Proofs.Store.Tables

/-!
# The names of relations

Tables and indexes are relations and share one namespace. The unique index of a column is named by joining the names of
its table and of the column with underscores, so that different columns may lead to one name (`indexName_eq_iff`). The
relations that a migration creates have different names if and only if no index is named like a table or like an index
of another table (`Clash`, `build_relations_nodup_iff`).
-/

namespace SchemaJournal

open Database.Store Ddl Migration

namespace Ddl

/-- The name of the unique index of a column. -/
def indexName (table column : String) : String := table ++ "_" ++ column ++ "_unique"

/-- The columns that have a unique index, in order. -/
def indexedColumns (t : Table) : List String := (t.columns.filter fun (_, c) => c.unique && !c.primary).map (·.1)

/-- The names of the relations of a table: its own and those of its indexes. -/
def relations (t : Table) : List String := t.name :: (indexedColumns t).map (indexName t.name)

/-- The name of the relation that a statement creates, if it creates one. -/
def createdRelation? (sql : String) : Option String :=
  ((Text.afterStart? "CREATE TABLE " sql).or (Text.afterStart? "CREATE UNIQUE INDEX " sql)).map leadingName

/-- An index has the name of a table, or of an index of another table. -/
inductive Clash (tables : List Table) : Prop
  | withTable {a b : Table} {column : String} (ha : a ∈ tables) (hb : b ∈ tables) (hc : column ∈ indexedColumns a)
      (hname : b.name = indexName a.name column) : Clash tables
  | withIndex {a b : Table} {part column : String} (ha : a ∈ tables) (hb : b ∈ tables)
      (hname : b.name = a.name ++ "_" ++ part) (hc : part ++ "_" ++ column ∈ indexedColumns a)
      (hd : column ∈ indexedColumns b) : Clash tables

/-! ## Statements and their relations -/

variable {table column : String} {t : Table} {tables : List Table}

theorem isPlain_indexName (ht : Text.IsPlain table) (hc : Text.IsPlain column) :
    Text.IsPlain (indexName table column) := by
  have hlist : (indexName table column).toList = table.toList ++ '_' :: (column.toList ++ "_unique".toList) := by
    simp [indexName]
  have hsuffix : Text.IsPlain "_unique" := by decide
  refine ⟨by simp [hlist], fun c hmem => ?_⟩
  rw [hlist, List.mem_append, List.mem_cons, List.mem_append] at hmem
  rcases hmem with hmem | rfl | hmem | hmem
  · exact ht.2 c hmem
  · decide
  · exact hc.2 c hmem
  · exact hsuffix.2 c hmem

theorem createdRelation?_table (rest : String) : createdRelation? ("CREATE TABLE " ++ rest) = some (leadingName rest) := by
  rw [createdRelation?, afterStart?_append, Option.some_or, Option.map_some]

theorem createdRelation?_index (rest : String) :
    createdRelation? ("CREATE UNIQUE INDEX " ++ rest) = some (leadingName rest) := by
  have hnone : Text.afterStart? "CREATE TABLE " ("CREATE UNIQUE INDEX " ++ rest) = none := by
    simp [Text.afterStart?, Text.after?]
  rw [createdRelation?, hnone, afterStart?_append, Option.none_or, Option.map_some]

theorem createdRelation?_alter (rest : String) : createdRelation? ("ALTER TABLE " ++ rest) = none := by
  have htable : Text.afterStart? "CREATE TABLE " ("ALTER TABLE " ++ rest) = none := by
    simp [Text.afterStart?, Text.after?]
  have hindex : Text.afterStart? "CREATE UNIQUE INDEX " ("ALTER TABLE " ++ rest) = none := by
    simp [Text.afterStart?, Text.after?]
  rw [createdRelation?, htable, hindex]
  rfl

theorem text_createUniqueIndex (table column : String) : (Statement.createUniqueIndex table column).text =
    "CREATE UNIQUE INDEX " ++ (indexName table column ++ (" ON " ++ (table ++ ("(" ++ (column ++ ");"))))) := by
  have hend : "_unique ON " = "_unique" ++ " ON " := by decide
  unfold Statement.text indexName
  rw [hend]
  ac_rfl

theorem createdRelation?_createTable (ht : Text.IsPlain table) (columns : List ColumnClause) :
    createdRelation? (Statement.createTable table columns).text = some table := by
  unfold Statement.text
  generalize ",\n    ".intercalate (columns.map ColumnClause.text) = clauses
  simp only [String.append_assoc]
  rw [createdRelation?_table, leadingName_append ht (c := ' ') (by decide) (by simp)]

theorem createdRelation?_createUniqueIndex (ht : Text.IsPlain table) (hc : Text.IsPlain column) :
    createdRelation? (Statement.createUniqueIndex table column).text = some (indexName table column) := by
  rw [text_createUniqueIndex, createdRelation?_index]
  exact congrArg some (leadingName_append (isPlain_indexName ht hc) (c := ' ') (by decide) (by simp))

theorem createdRelation?_addForeignKey (target : Reference) :
    createdRelation? (Statement.addForeignKey table column target).text = none := by
  unfold Statement.text
  simp only [String.append_assoc]
  exact createdRelation?_alter _

/-- The relations that the statements of a table create are those of the table. -/
theorem createdRelations_setUp (ht : Text.IsPlain t.name) (hc : ∀ c ∈ t.columns, Text.IsPlain c.1) :
    ((setUp t).map Statement.text).filterMap createdRelation? = relations t := by
  have hindexes : ((uniqueIndexes t).map Statement.text).filterMap createdRelation? =
      (indexedColumns t).map (indexName t.name) := by
    rw [uniqueIndexes, indexedColumns, List.map_map, List.map_map, List.filterMap_map, ← List.filterMap_eq_map]
    refine List.filterMap_congr fun c hmem => ?_
    simp only [Function.comp_apply]
    exact createdRelation?_createUniqueIndex ht (hc c (List.mem_filter.mp hmem).1)
  have hkeys : ((foreignKeys t).map Statement.text).filterMap createdRelation? = [] := by
    rw [List.filterMap_map]
    refine List.filterMap_eq_nil_iff.mpr fun s hs => ?_
    rw [Function.comp_apply]
    obtain ⟨c, -, hr⟩ := List.mem_filterMap.mp hs
    obtain ⟨target, -, rfl⟩ := Option.map_eq_some_iff.mp hr
    exact createdRelation?_addForeignKey target
  rw [setUp, createTable, List.cons_append, List.map_cons, List.map_append, List.filterMap_cons,
    createdRelation?_createTable ht, List.filterMap_append, hindexes, hkeys, List.append_nil]
  rfl

theorem createdRelations_upStatements (hplain : ∀ t ∈ tables, Text.IsPlain t.name ∧ ∀ c ∈ t.columns, Text.IsPlain c.1) :
    ((upStatements tables).map Statement.text).filterMap createdRelation? = tables.flatMap relations := by
  induction tables with
  | nil => rfl
  | cons t rest ih =>
    obtain ⟨ht, hrest⟩ := List.forall_mem_cons.mp hplain
    have happend : upStatements (t :: rest) = setUp t ++ upStatements rest := List.flatMap_cons
    rw [happend, List.map_append, List.filterMap_append, createdRelations_setUp ht.1 ht.2, ih hrest, List.flatMap_cons]

/-! ## Names that meet -/

/-- Two joins of names are the same if the names are, or if a part of one name has moved into the other one. -/
theorem join_eq_iff {a b c d : List Char} : a ++ '_' :: c = b ++ '_' :: d ↔ (a = b ∧ c = d) ∨
    (∃ part, b = a ++ '_' :: part ∧ c = part ++ '_' :: d) ∨ ∃ part, a = b ++ '_' :: part ∧ d = part ++ '_' :: c := by
  constructor
  · intro h
    rcases List.append_eq_append_iff.mp h with ⟨part, hb, hc⟩ | ⟨part, ha, hd⟩
    · cases part with
      | nil => exact .inl ⟨by simpa using hb.symm, by simpa using hc⟩
      | cons x part =>
        obtain ⟨rfl, htail⟩ := List.cons.inj hc
        exact .inr (.inl ⟨part, hb, htail⟩)
    · cases part with
      | nil => exact .inl ⟨by simpa using ha, by simpa using hd.symm⟩
      | cons x part =>
        obtain ⟨rfl, htail⟩ := List.cons.inj hd
        exact .inr (.inr ⟨part, ha, htail⟩)
  · rintro (⟨rfl, rfl⟩ | ⟨part, rfl, rfl⟩ | ⟨part, rfl, rfl⟩)
    · rfl
    · simp
    · simp

/-- Two indexes have one name if their tables and columns are the same, or if a part of one name has moved. -/
theorem indexName_eq_iff {a b c d : String} : indexName a c = indexName b d ↔ (a = b ∧ c = d) ∨
    (∃ part, b = a ++ "_" ++ part ∧ c = part ++ "_" ++ d) ∨ ∃ part, a = b ++ "_" ++ part ∧ d = part ++ "_" ++ c := by
  have hmoved : ∀ a b c d : String, (∃ part, b.toList = a.toList ++ '_' :: part ∧ c.toList = part ++ '_' :: d.toList) ↔
      ∃ part, b = a ++ "_" ++ part ∧ c = part ++ "_" ++ d := by
    intro a b c d
    constructor
    · rintro ⟨part, hb, hc⟩
      exact ⟨String.ofList part, String.toList_inj.mp (by simp [hb]), String.toList_inj.mp (by simp [hc])⟩
    · rintro ⟨part, rfl, rfl⟩
      exact ⟨part.toList, by simp, by simp⟩
  have hnames : indexName a c = indexName b d ↔ a.toList ++ '_' :: c.toList = b.toList ++ '_' :: d.toList := by
    have hlist : ∀ a c : String, (indexName a c).toList = a.toList ++ '_' :: c.toList ++ "_unique".toList := by
      simp [indexName]
    rw [← String.toList_inj, hlist, hlist, List.append_left_inj]
  rw [hnames, join_eq_iff, hmoved, hmoved, String.toList_inj, String.toList_inj]

theorem ne_indexName (table column : String) : table ≠ indexName table column := by
  intro h
  have hlength := congrArg (fun s : String => s.toList.length) h
  simp [indexName] at hlength

/-- The relations of tables with different names have different names if and only if none of them clash. -/
theorem nodup_relations_iff (hnames : (tables.map (·.name)).Nodup)
    (hcolumns : ∀ t ∈ tables, (t.columns.map (·.1)).Nodup) : (tables.flatMap relations).Nodup ↔ ¬Clash tables := by
  rw [List.nodup_flatMap]
  constructor
  · rintro ⟨-, hapart⟩ hclash
    have hdisjoint : ∀ {a b : Table}, a ∈ tables → b ∈ tables → a.name ≠ b.name →
        List.Disjoint (relations a) (relations b) := by
      have : Std.Symm (Function.onFun List.Disjoint relations) := ⟨fun _ _ h _ hx hx' => h hx' hx⟩
      exact fun {a b} ha hb hab => hapart.forall ha hb fun h => hab (congrArg Table.name h)
    cases hclash with
    | @withTable a b column ha hb hc hname =>
      refine hdisjoint ha hb (hname ▸ ne_indexName _ _) (List.mem_cons_of_mem _ (List.mem_map_of_mem hc)) ?_
      exact List.mem_cons.mpr (.inl hname.symm)
    | @withIndex a b part column ha hb hname hc hd =>
      have hab : a.name ≠ b.name := by
        rw [hname]
        intro h
        have hlength := congrArg (fun s : String => s.toList.length) h
        simp at hlength
      refine hdisjoint ha hb hab (List.mem_cons_of_mem _ (List.mem_map_of_mem hc)) ?_
      rw [indexName_eq_iff.mpr (.inr (.inl ⟨part, hname, rfl⟩))]
      exact List.mem_cons_of_mem _ (List.mem_map_of_mem hd)
  · intro hclash
    refine ⟨fun t ht => ?_, ?_⟩
    · refine List.nodup_cons.mpr ⟨fun hmem => ?_, ?_⟩
      · obtain ⟨column, -, hname⟩ := List.mem_map.mp hmem
        exact ne_indexName _ _ hname.symm
      · refine List.Nodup.map (fun c d h => ?_) ((hcolumns t ht).sublist (List.filter_sublist.map _))
        exact String.toList_inj.mp (by simpa [indexName, ← String.toList_inj] using h)
    · refine (List.pairwise_map.mp hnames).imp_of_mem fun {a b} ha hb hab x hxa hxb => hclash ?_
      rcases List.mem_cons.mp hxa with rfl | hxa <;> rcases List.mem_cons.mp hxb with hxb | hxb
      · exact absurd hxb hab
      · obtain ⟨column, hc, hname⟩ := List.mem_map.mp hxb
        exact .withTable hb ha hc hname.symm
      · obtain ⟨column, hc, hname⟩ := List.mem_map.mp hxa
        exact .withTable ha hb hc (hxb.symm.trans hname.symm)
      · obtain ⟨c, hc, hca⟩ := List.mem_map.mp hxa
        obtain ⟨d, hd, hdb⟩ := List.mem_map.mp hxb
        rcases indexName_eq_iff.mp (hca.trans hdb.symm) with ⟨hname, -⟩ | ⟨part, hname, rfl⟩ | ⟨part, hname, rfl⟩
        · exact absurd hname hab
        · exact .withIndex ha hb hname hc hd
        · exact .withIndex hb ha hname hd hc

end Ddl

/-! ## Migrations -/

/-- **The names of relations.** If a schema is valid, all its names are plain and no table has two columns of one name,
then the relations that its migration creates have different names if and only if no index has the name of a table or
of an index of another table. -/
theorem build_relations_nodup_iff {s : Schema} {name : String} {timestamp : Int64} {m : Migration}
    (hvalid : s.validate = .ok ()) (hplain : ∀ t ∈ s.tables, Text.IsPlain t.name ∧ ∀ c ∈ t.columns, Text.IsPlain c.1)
    (hcolumns : ∀ t ∈ s.tables, (t.columns.map (·.1)).Nodup) (hbuild : Migration.build name s.tables timestamp = .ok m) :
    (m.up.filterMap createdRelation?).Nodup ↔ ¬Clash s.tables := by
  obtain ⟨-, ordered, horder, rfl⟩ := build_eq_ok hbuild
  have hnames : (s.tables.map (·.name)).Nodup := (Schema.validate_eq_ok_iff.mp hvalid).names
  have hperm : ordered.Perm s.tables := Order.order_perm hnames horder
  have hcreated : ((upStatements ordered).map Statement.text).filterMap createdRelation? = ordered.flatMap relations :=
    createdRelations_upStatements fun t ht => hplain t (hperm.mem_iff.mp ht)
  rw [← nodup_relations_iff hnames hcolumns, ← (hperm.flatMap_right relations).nodup_iff, ← hcreated]
  rfl

/-- A table with a unique column for every name. -/
def indexed (name : String) (columns : List String) : Table :=
  ⟨name, columns.map fun column => (column, { Column.ofType .string with unique := true }), false⟩

/-- The indexes `a_b_unique` and `a_b_c_unique` belong to two tables, and the second table is named like the first one
and its column joined. -/
theorem indexed_relations_nodup : ∃ m, Schema.validate ⟨[indexed "a" ["b"], indexed "a_b" ["c"]]⟩ = .ok () ∧
    Migration.build "init" [indexed "a" ["b"], indexed "a_b" ["c"]] 1 = .ok m ∧
    (m.up.filterMap createdRelation?).Nodup := by
  let tables := [indexed "a" ["b"], indexed "a_b" ["c"]]
  have hvalid : Schema.validate ⟨tables⟩ = .ok () := rfl
  have horder : order tables = .ok tables := by cbv
  have hbuild : ∃ m, Migration.build "init" tables 1 = .ok m := by
    unfold Migration.build
    rw [horder]
    exact ⟨_, rfl⟩
  obtain ⟨m, hm⟩ := hbuild
  have hclash : ¬Clash tables := (nodup_relations_iff (by decide) (by decide)).mp (by decide)
  exact ⟨m, hvalid, hm, (build_relations_nodup_iff (s := ⟨tables⟩) hvalid (by decide) (by decide) hm).mpr hclash⟩

/-- A valid schema with plain names, of which the migration creates a relation twice. -/
def CreatesTwice (tables : List Table) : Prop :=
  Schema.validate ⟨tables⟩ = .ok () ∧ (∀ t ∈ tables, Text.IsPlain t.name ∧ ∀ c ∈ t.columns, Text.IsPlain c.1) ∧
    (∀ t ∈ tables, (t.columns.map (·.1)).Nodup) ∧ ∃ m, Migration.build "init" tables 1 = .ok m ∧
      ¬(m.up.filterMap createdRelation?).Nodup

/-- Two indexes may have one name, and so may an index and a table. -/
theorem not_relations_nodup : CreatesTwice [indexed "a" ["b_c"], indexed "a_b" ["c"]] ∧
    CreatesTwice [indexed "a" ["b"], indexed "a_b_unique" []] := by
  have htwice : ∀ {tables ordered}, order tables = .ok ordered → Schema.validate ⟨tables⟩ = .ok () →
      (∀ t ∈ tables, Text.IsPlain t.name ∧ ∀ c ∈ t.columns, Text.IsPlain c.1) →
      (∀ t ∈ tables, (t.columns.map (·.1)).Nodup) →
      ¬(((upStatements ordered).map Statement.text).filterMap createdRelation?).Nodup → CreatesTwice tables := by
    intro tables ordered horder hvalid hplain hcolumns htwice
    refine ⟨hvalid, hplain, hcolumns, ?_⟩
    unfold Migration.build
    rw [horder]
    exact ⟨_, rfl, htwice⟩
  have horder : order [indexed "a" ["b_c"], indexed "a_b" ["c"]] = .ok [indexed "a" ["b_c"], indexed "a_b" ["c"]] := by
    cbv
  have horder' : order [indexed "a" ["b"], indexed "a_b_unique" []] =
      .ok [indexed "a" ["b"], indexed "a_b_unique" []] := by
    cbv
  exact ⟨htwice horder rfl (by decide) (by decide) (by decide +kernel),
    htwice horder' rfl (by decide) (by decide) (by decide +kernel)⟩

end SchemaJournal
