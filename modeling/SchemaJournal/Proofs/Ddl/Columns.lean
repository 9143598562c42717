import SchemaJournal.Proofs.Ddl.Structure
import SchemaJournal.Proofs.Schema.Saving

/-!
# The columns of loaded tables

A document is read only if no table repeats the name of a column, but the implicit columns of a table with time stamps
are not looked at then. So the statement that creates a loaded table declares different columns exactly if the table
does not declare an implicit column of its own (`load_columns_nodup_iff`).
-/

namespace SchemaJournal

open Ddl

/-- A table with time stamps declares a column with the name of an implicit one. -/
def Table.ShadowsTime (t : Table) : Prop :=
  t.timestamps = true ∧ ∃ name ∈ ["created_at", "updated_at"], name ∈ t.columns.map (·.1)

instance : DecidablePred Table.ShadowsTime := fun t =>
  inferInstanceAs (Decidable (t.timestamps = true ∧ ∃ name ∈ ["created_at", "updated_at"], name ∈ t.columns.map (·.1)))

/-! ## Compiled tables -/

namespace Ddl

variable {t : Table} {table : String} {columns : List ColumnClause}

/-- A table is created once, with all its columns. -/
theorem createTable_mem_setUp : .createTable table columns ∈ setUp t ↔ table = t.name ∧ columns = columnClauses t := by
  rw [setUp, List.cons_append, List.mem_cons, List.mem_append]
  constructor
  · rintro (h | h | h)
    · cases h
      exact ⟨rfl, rfl⟩
    · obtain ⟨c, -, hc⟩ := List.mem_map.mp h
      cases hc
    · obtain ⟨c, -, hc⟩ := List.mem_filterMap.mp h
      obtain ⟨target, -, htarget⟩ := Option.map_eq_some_iff.mp hc
      cases htarget
  · rintro ⟨rfl, rfl⟩
    exact .inl rfl

/-- If the declared columns of a table differ, all its columns do, unless one of them has the name of an implicit
one. -/
theorem nodup_columnClauses_iff (hdeclared : (t.columns.map (·.1)).Nodup) :
    ((columnClauses t).map (·.name)).Nodup ↔ ¬t.ShadowsTime := by
  rw [names_columnClauses, columnNames, List.nodup_append']
  cases htime : t.timestamps with
  | false =>
    refine iff_of_true ⟨hdeclared, List.nodup_nil, List.disjoint_nil_right _⟩ ?_
    rintro ⟨hstamps, -⟩
    rw [htime] at hstamps
    cases hstamps
  | true =>
    have htimes : ["created_at", "updated_at"].Nodup := by decide
    constructor
    · rintro ⟨-, -, happart⟩ ⟨-, name, himplicit, hmem⟩
      exact happart hmem himplicit
    · intro hshadows
      exact ⟨hdeclared, htimes, fun name hmem himplicit => hshadows ⟨htime, name, himplicit, hmem⟩⟩

end Ddl

/-! ## Loaded tables -/

namespace Editor

variable {editor editor' : Editor} {files : FileTree}

/-- A document in which a table repeats the name of a column is not loaded. -/
theorem nodup_columns_of_load (h : editor.load files = .ok editor') :
    ∀ t ∈ editor'.schema.tables, (t.columns.map (·.1)).Nodup := by
  unfold load at h
  cases hread : readSchema files editor.path with
  | error e =>
    rw [hread] at h
    cases h
  | ok s =>
    rw [hread] at h
    cases h
    intro t ht
    cases htext : files.readText editor.path with
    | error e =>
      -- Without a document there are no tables.
      unfold readSchema at hread
      rw [htext] at hread
      cases e <;> cases hread
      cases ht
    | ok text =>
      have hfits := Schema.isCodec.gives_readDocument _ _ ((readSchema_eq_ok_iff htext).mp hread).1
      exact (Schema.fits_iff_columns.mp hfits t ht).1

/-- **The columns of loaded tables.** Every statement that creates a loaded table declares different columns, unless the
table has time stamps and declares a column with the name of an implicit one. -/
theorem load_columns_nodup_iff (hload : editor.load files = .ok editor') :
    ∀ t ∈ editor'.schema.tables, ∀ table columns, .createTable table columns ∈ setUp t →
      ((columns.map (·.name)).Nodup ↔ ¬t.ShadowsTime) := by
  intro t ht table columns hmem
  obtain ⟨rfl, rfl⟩ := createTable_mem_setUp.mp hmem
  exact nodup_columnClauses_iff (nodup_columns_of_load hload t ht)

/-- A tree with a schema that has a table with time stamps and one that declares its own. -/
def stamped : FileTree :=
  ⟨[(["schema.json"], .file ("\x7b\"tables\": [\x7b\"name\": \"logs\", \"columns\": \x7b\"created_at\": " ++
    "\x7b\"type\": \"date\"\x7d\x7d\x7d, [\"notes\", \x7b\"id\": [\"uuid\"]\x7d, true]]\x7d").toUTF8)], by decide, []⟩

theorem stamped_columns_nodup : ∃ editor', (Editor.new ⟨"schema.json"⟩).load stamped = .ok editor' ∧
    editor'.schema.tables.map (fun t => (columnClauses t).map (·.name)) =
      [["created_at"], ["id", "created_at", "updated_at"]] ∧
    ∀ t ∈ editor'.schema.tables, ∀ table columns, .createTable table columns ∈ setUp t →
      (columns.map (·.name)).Nodup := by
  have hread : ((Editor.new ⟨"schema.json"⟩).load stamped).toOption.map (fun e =>
      (e.schema.tables.map (fun t => (columnClauses t).map (·.name)), decide (∀ t ∈ e.schema.tables, ¬t.ShadowsTime))) =
      some ([["created_at"], ["id", "created_at", "updated_at"]], true) := by decide +kernel
  obtain ⟨editor', hok, hresult⟩ := Option.map_eq_some_iff.mp hread
  obtain ⟨hnames, hclear⟩ := Prod.mk.inj hresult
  have hload := Attempt.eq_ok_of_toOption hok
  refine ⟨editor', hload, hnames, fun t ht table columns hmem => ?_⟩
  exact (load_columns_nodup_iff hload t ht table columns hmem).mpr (of_decide_eq_true hclear t ht)

/-- A tree with a schema in which a table with time stamps declares one of them as well. -/
def doublyStamped : FileTree :=
  ⟨[(["schema.json"], .file ("\x7b\"tables\": [\x7b\"name\": \"logs\", \"columns\": \x7b\"created_at\": " ++
    "\x7b\"type\": \"date\"\x7d\x7d, \"timestamps\": true\x7d]\x7d").toUTF8)], by decide, []⟩

/-- A loaded table may be created with two columns of one name. -/
theorem not_load_columns_nodup : ∃ editor', (Editor.new ⟨"schema.json"⟩).load doublyStamped = .ok editor' ∧
    ∃ t ∈ editor'.schema.tables, ∃ table columns, .createTable table columns ∈ setUp t ∧
      columns.map (·.name) = ["created_at", "created_at", "updated_at"] ∧ ¬(columns.map (·.name)).Nodup := by
  have hread : ((Editor.new ⟨"schema.json"⟩).load doublyStamped).toOption.map (fun e =>
      e.schema.tables.map (fun t => (columnClauses t).map (·.name))) =
      some [["created_at", "created_at", "updated_at"]] := by decide +kernel
  obtain ⟨editor', hok, hresult⟩ := Option.map_eq_some_iff.mp hread
  obtain ⟨t, htables, hnames⟩ := List.map_eq_singleton_iff.mp hresult
  refine ⟨editor', Attempt.eq_ok_of_toOption hok, t, ?_, t.name, columnClauses t, ?_, hnames, ?_⟩
  · rw [htables]
    exact List.mem_singleton_self t
  · exact createTable_mem_setUp.mpr ⟨rfl, rfl⟩
  · rw [hnames]
    decide

end Editor

end SchemaJournal
