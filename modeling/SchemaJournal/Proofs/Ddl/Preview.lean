import SchemaJournal.Proofs.Migration.References
import SchemaJournal.Proofs.Order.Complete

/-!
# Previews of migrations

The scripts of a schema and the migration of its tables are made apart from each other: the one joins the statements of
each table, the other lists the statements of all tables and drops them in the opposite order. Both start with the
order of the tables and fail with it only (`scripts_eq`, `build_eq`). So the scripts are the migration, parted at its
tables (`IsPreview`, `scripts_preview_build`).
-/

namespace SchemaJournal

open Ddl Migration

variable {tables ordered : List Table} {name : String} {timestamp : Int64}

/-- What the scripts of tables have to do with a migration of them, given the tables of the scripts in order. -/
structure IsPreview (tables ordered : List Table) (scripts : List String) (m : Migration) : Prop where
  /-- Each script is that of its table. -/
  scripts_eq : scripts = ordered.map Ddl.script
  /-- No two scripts are of tables with one name. -/
  nodup : (ordered.map (·.name)).Nodup
  /-- Every name has a script. -/
  names : ∀ name, name ∈ ordered.map (·.name) ↔ name ∈ tables.map (·.name)
  /-- The script of a name is that of the last table with this name. -/
  last : ∀ t ∈ ordered, Order.IsLast tables t
  /-- All in all, the scripts are the statements that apply the migration. -/
  joined : "\n".intercalate scripts = "\n".intercalate m.up
  length : m.down.length = scripts.length
  /-- The table of a script is dropped as far from the end as its script is from the start. -/
  drops : ∀ i (hi : i < ordered.length), m.down.reverse[i]? = some (Statement.dropTable ordered[i].name).text

/-! ## Texts -/

/-- Joining texts that were joined is joining all their parts, if there is none without parts. -/
theorem intercalate_map_intercalate (separator : String) {texts : List (List String)}
    (h : ∀ parts ∈ texts, parts ≠ []) :
    separator.intercalate (texts.map separator.intercalate) = separator.intercalate texts.flatten := by
  induction texts with
  | nil => rfl
  | cons parts rest ih =>
    obtain ⟨hparts, hrest⟩ := List.forall_mem_cons.mp h
    cases rest with
    | nil => simp
    | cons next others =>
      have hflat : (next :: others).flatten ≠ [] := by
        rw [List.flatten_cons]
        exact List.append_ne_nil_of_left_ne_nil (hrest next List.mem_cons_self) _
      show _ = separator.intercalate (parts ++ (next :: others).flatten)
      rw [List.map_cons, String.intercalate_cons_of_ne_nil (by simp), ih hrest,
        String.intercalate_append_of_ne_nil hparts hflat]

theorem joined_scripts (ordered : List Table) : "\n".intercalate (ordered.map Ddl.script) =
    "\n".intercalate ((upStatements ordered).map Statement.text) := by
  have hscripts :
      ordered.map Ddl.script = (ordered.map fun t => (setUp t).map Statement.text).map "\n".intercalate := by
    rw [List.map_map]
    rfl
  have hstatements : (upStatements ordered).map Statement.text =
      (ordered.map fun t => (setUp t).map Statement.text).flatten := by
    rw [upStatements, List.map_flatMap, List.flatMap_def]
  rw [hscripts, hstatements, intercalate_map_intercalate]
  -- Every table has a statement that creates it.
  intro texts htexts
  obtain ⟨t, -, rfl⟩ := List.mem_map.mp htexts
  exact List.cons_ne_nil _ _

/-! ## Scripts and migrations -/

theorem scripts_eq (tables : List Table) :
    scripts tables = (order tables).map fun ordered => ordered.map Ddl.script := by
  unfold scripts
  cases order tables with
  | error e => rfl
  | ok ordered => rfl

/-- Under a valid name, building a migration fails with the order of its tables only. -/
theorem build_eq (hname : checkName name = .ok ()) (tables : List Table) (timestamp : Int64) :
    Migration.build name tables timestamp = (order tables).map fun ordered =>
      Migration.new name timestamp ((upStatements ordered).map Statement.text)
        ((downStatements ordered).map Statement.text) := by
  unfold Migration.build
  rw [hname]
  cases order tables with
  | error e => rfl
  | ok ordered => rfl

theorem isPreview_of_order (h : order tables = .ok ordered) (name : String) (timestamp : Int64) :
    IsPreview tables ordered (ordered.map Ddl.script) (Migration.new name timestamp
      ((upStatements ordered).map Statement.text) ((downStatements ordered).map Statement.text)) := by
  have horders := Order.order_orders h
  have hdown : (downStatements ordered).map Statement.text =
      (ordered.map fun t => (Statement.dropTable t.name).text).reverse := by
    rw [downStatements_eq, List.map_map, List.map_reverse]
    rfl
  refine ⟨rfl, horders.nodup, horders.names, horders.last, joined_scripts ordered, ?_, fun i hi => ?_⟩
  · show ((downStatements ordered).map Statement.text).length = _
    rw [hdown, List.length_reverse, List.length_map, List.length_map]
  · show ((downStatements ordered).map Statement.text).reverse[i]? = _
    rw [hdown, List.reverse_reverse, List.getElem?_map, List.getElem?_eq_getElem hi]
    rfl

/-- **The scripts are the migration.** Under a valid name, the scripts of a schema and the migration of its tables fail
alike; if they do not, the scripts are the statements of the migration, one script for every name of a table, and the
tables are dropped in the opposite order of their scripts. -/
theorem scripts_preview_build (schema : Schema) (timestamp : Int64) (hname : checkName name = .ok ()) :
    (∀ e, scripts schema.tables = .error e ↔ Migration.build name schema.tables timestamp = .error e) ∧
    ((∃ texts, scripts schema.tables = .ok texts) ↔ ∃ m, Migration.build name schema.tables timestamp = .ok m) ∧
    ∀ texts m, scripts schema.tables = .ok texts → Migration.build name schema.tables timestamp = .ok m →
      ∃ ordered, IsPreview schema.tables ordered texts m := by
  rw [scripts_eq, build_eq hname]
  cases ho : order schema.tables with
  | error e =>
    refine ⟨fun _ => ⟨?_, ?_⟩, ⟨nofun, nofun⟩, nofun⟩
    · rintro ⟨⟩
      rfl
    · rintro ⟨⟩
      rfl
  | ok ordered =>
    refine ⟨fun _ => ⟨nofun, nofun⟩, ⟨fun _ => ⟨_, rfl⟩, fun _ => ⟨_, rfl⟩⟩, ?_⟩
    rintro _ _ ⟨⟩ ⟨⟩
    exact ⟨ordered, isPreview_of_order ho name timestamp⟩

/-- A table is declared twice, and only the first declaration would close a cycle. -/
def redeclared : List Table := [referring "posts" ["users"], referring "users" ["posts"], referring "users" ["users"]]

/-- There is one script for the name that is declared twice. -/
theorem redeclared_preview : checkName "first" = .ok () ∧ ∃ texts m ordered, scripts redeclared = .ok texts ∧
    Migration.build "first" redeclared 1 = .ok m ∧ texts.length = 2 ∧ IsPreview redeclared ordered texts m := by
  have hname : checkName "first" = .ok () := by decide
  have horder : order redeclared = .ok [referring "users" ["users"], referring "posts" ["users"]] := by cbv
  obtain ⟨-, hiff, hpreview⟩ := scripts_preview_build ⟨redeclared⟩ 1 hname
  have htexts : scripts redeclared =
      .ok ([referring "users" ["users"], referring "posts" ["users"]].map Ddl.script) := by
    rw [scripts_eq, horder]
    rfl
  obtain ⟨m, hm⟩ := hiff.mp ⟨_, htexts⟩
  obtain ⟨ordered, h⟩ := hpreview _ m htexts hm
  exact ⟨hname, _, m, ordered, htexts, hm, rfl, h⟩

end SchemaJournal
