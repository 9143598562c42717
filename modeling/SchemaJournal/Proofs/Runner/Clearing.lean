import SchemaJournal.Proofs.Order.Stability
import SchemaJournal.Proofs.Runner.Contents
import SchemaJournal.Proofs.Store.Tables

/-!
# Dropping the tables of a schema

Dropping the tables of a schema fails if and only if references lead from one of them back to it, or a statement that
drops one is refused; no other failure is possible, whatever the names of the tables are (`changes_clear`). A failure
leaves the contents of a store. Otherwise every name is dropped once, before what its table references, and all of them
in one transaction (`Cleared`, `clear_allOrNothing`).
-/

namespace SchemaJournal

open Database Database.Store Ddl World

variable {schema : Schema} {ordered : List Table} {names tables failing : List String} {a b : String} {k : Contents}
  {e : Error}

/-! ## The statements -/

/-- What a statement takes for the name of the table to drop. -/
theorem ofSql_dropSql (name : String) :
    Effect.ofSql (dropSql name) = .dropTable (leadingName (name ++ " CASCADE;")) := by
  show Effect.ofSql ("DROP TABLE IF EXISTS " ++ name ++ " CASCADE;") = _
  rw [String.append_assoc, ofSql_drop]

theorem isListed_dropSql (name : String) : isListed (dropSql name) = true := by
  show isListed ("DROP TABLE IF EXISTS " ++ name ++ " CASCADE;") = true
  simp only [isListed, Text.startsWith, String.toList_append]
  rfl

/-- Dropping tables cannot fail. -/
theorem changes_clear (names tables : List String) : changes (names.map dropSql) tables =
    .ok (tables.filter fun table => table ∉ names.map fun name => leadingName (name ++ " CASCADE;")) :=
  changes_dropping _ fun name _ => ofSql_dropSql name

/-- Names that are plain are taken as they are. -/
theorem changes_clear_of_plain (hplain : ∀ name ∈ names, Text.IsPlain name) :
    changes (names.map dropSql) tables = .ok (tables.filter fun table => table ∉ names) := by
  rw [changes_dropping id, List.map_id]
  intro name hname
  exact ofSql_text (s := .dropTableCascade name) (hplain name hname)

/-! ## Dropping the tables -/

/-- The tables of a schema were dropped. -/
structure Cleared (schema : Schema) (names : List String) (calls : List Exchange) (before after : Store) : Prop where
  nodup : names.Nodup
  mem : ∀ name, name ∈ names ↔ name ∈ schema.tables.map (·.name)
  /-- A table is dropped before those that it references. -/
  references : ∀ a b, Order.References schema.tables a b → [a, b].Sublist names
  transaction : committed calls = [names.map fun name => (dropSql name, [])]
  records : after.records = before.records
  tables : (∀ name ∈ names, Text.IsPlain name) → after.tables = before.tables.filter fun table => table ∉ names
  executed : after.executed = before.executed ++ names.map dropSql
  commits : after.commits = before.commits + 1

/-- In the reversed order, a table stands before those that it references. -/
theorem Order.Orders.reverse_references (h : Order.Orders schema.tables ordered)
    (href : Order.References schema.tables a b) : [a, b].Sublist (ordered.reverse.map (·.name)) := by
  have ha : a ∈ ordered.map (·.name) := (h.names a).mpr href.declared
  obtain ⟨t, ht, rfl⟩ := List.mem_map.mp ha
  obtain ⟨before, after, rfl⟩ := List.append_of_mem ht
  have hb : b ∈ before.map (·.name) := h.references before t after rfl b href
  have hprecedes : Order.Precedes (before ++ t :: after) b t.name := Order.precedes_append hb (by simp)
  rw [List.map_reverse]
  exact List.Sublist.reverse hprecedes

/-- Without an order of the tables, nothing is called. -/
theorem exchanges_clear_of_cyclic {σ : Type} (r : Runner σ) (w : World σ) (hcyclic : ¬Order.Acyclic schema.tables) :
    r.exchanges (·.clear schema) w = [] := by
  have hnone : ∀ ordered, order schema.tables ≠ .ok ordered := fun ordered ho =>
    hcyclic (Order.exists_order_iff.mp ⟨ordered, ho⟩)
  have hclear : Ensures w.files (fun t => t.exchanges = []) (r.recorded.clear schema) (fun _ t => t.exchanges = [])
      fun _ t => t.exchanges = [] := by
    refine Ensures.bind (Q := fun _ _ => False) (Ensures.ofExcept ?_ fun _ _ _ h => h) fun _ _ _ h => h.elim
    exact fun ordered ho => absurd ho (hnone ordered)
  exact hclear.either rfl rfl

/-- One statement for every name of a table. -/
theorem mem_clearScript_iff (ho : order schema.tables = .ok ordered) {p : Prepared} :
    p ∈ clearScript ordered ↔ ∃ t ∈ schema.tables, p = (dropSql t.name, []) := by
  have hnames := (Order.order_orders ho).names
  rw [clearScript_eq, List.map_map, List.mem_map]
  constructor
  · rintro ⟨name, hname, rfl⟩
    rw [List.map_reverse, List.mem_reverse, hnames] at hname
    obtain ⟨t, ht, rfl⟩ := List.mem_map.mp hname
    exact ⟨t, ht, rfl⟩
  · rintro ⟨t, ht, rfl⟩
    refine ⟨t.name, ?_, rfl⟩
    rw [List.map_reverse, List.mem_reverse, hnames]
    exact List.mem_map_of_mem ht

/-- Dropping the tables fails for one of two reasons. -/
theorem ClearFails.reason (h : ClearFails failing schema k e) :
    ¬Order.Acyclic schema.tables ∨ ∃ t ∈ schema.tables, Refuses failing (dropSql t.name) := by
  cases h with
  | unordered ho =>
    refine .inl fun hacyclic => ?_
    obtain ⟨ordered, hordered⟩ := Order.exists_order_iff.mpr hacyclic
    cases ho.symm.trans hordered
  | refused ho hp hr =>
    obtain ⟨t, ht, rfl⟩ := (mem_clearScript_iff ho).mp hp
    exact .inr ⟨t, ht, hr⟩
  | uncommitted ho hfails =>
    rw [clearScript_eq] at hfails
    exact absurd hfails (not_fails_bare (changes_clear _ _))

/-- A script that took effect has dropped the tables. -/
theorem Cleared.of_takes {calls : List Exchange} {before after : Store} (ho : order schema.tables = .ok ordered)
    (htakes : Takes (clearScript ordered) before.contents after.contents)
    (hcalls : committed calls = [clearScript ordered]) :
    Cleared schema (ordered.reverse.map (·.name)) calls before after := by
  have hs := Order.order_orders ho
  rw [clearScript_eq] at htakes hcalls
  obtain ⟨tables, hchanges, hafter⟩ := takes_bare htakes
  have hlisted : ((ordered.reverse.map (·.name)).map dropSql).filter isListed =
      (ordered.reverse.map (·.name)).map dropSql := by
    refine List.filter_eq_self.mpr fun sql hsql => ?_
    obtain ⟨name, -, rfl⟩ := List.mem_map.mp hsql
    exact isListed_dropSql name
  rw [hlisted] at hafter
  refine ⟨?_, fun name => ?_, fun a b => hs.reverse_references, ?_, congrArg Contents.records hafter,
    fun hplain => ?_, congrArg Contents.executed hafter, congrArg Contents.commits hafter⟩
  · rw [List.map_reverse]
    exact List.nodup_reverse.mpr hs.nodup
  · rw [List.map_reverse, List.mem_reverse]
    exact hs.names name
  · rw [hcalls, List.map_map]
    rfl
  · cases hchanges.symm.trans (changes_clear_of_plain hplain)
    exact congrArg Contents.tables hafter

/-- **Dropping tables.** Dropping the tables of a schema fails if and only if their references have a cycle, and then
nothing is called, or a statement that drops one of them is refused. If it fails, the contents of the store stay; if it
does not, the tables were dropped as a whole. -/
theorem clear_allOrNothing (j : Journal) (schema : Schema) (w : World Memory) :
    let store := w.database.store
    let calls := Runner.exchanges (·.clear schema) j.runner w
    ((∃ e, (j.runner.clear schema w).1 = .error e) ↔
      ¬Order.Acyclic schema.tables ∨ ∃ t ∈ schema.tables, Refuses store.failing (dropSql t.name)) ∧
    (¬Order.Acyclic schema.tables → calls = []) ∧
    (∀ e, (j.runner.clear schema w).1 = .error e →
      (j.runner.clear schema w).2.database.store.contents = store.contents) ∧
    ∀ names, (j.runner.clear schema w).1 = .ok names →
      Cleared schema names calls store (j.runner.clear schema w).2.database.store := by
  intro store calls
  have hclear : Ensures w.files (Rests (fun _ _ => True) store.failing store.contents []) (j.session.clear schema)
      _ _ := rests_clear j schema fun _ _ _ _ _ => trivial
  obtain ⟨t, hdatabase, hcalls, hres⟩ := (j.runner.mirrors_clear schema).ends (·.clear schema) hclear
    (rests_blank w.database trivial)
  have hcyclic : ¬Order.Acyclic schema.tables → calls = [] := exchanges_clear_of_cyclic j.runner w
  rw [← hdatabase]
  cases hrun : (j.runner.clear schema w).1 with
  | error e =>
    rw [hrun] at hres
    obtain ⟨hfails, ht⟩ := hres
    exact ⟨⟨fun _ => hfails.reason, fun _ => ⟨e, rfl⟩⟩, hcyclic, fun _ _ => ht.contents, nofun⟩
  | ok names =>
    rw [hrun] at hres
    obtain ⟨ordered, ⟨ho, rfl, haccepted⟩, k', htakes, ht⟩ := hres
    refine ⟨⟨nofun, ?_⟩, hcyclic, nofun, fun names hnames => ?_⟩
    · rintro (hcycle | ⟨table, htable, hrefused⟩)
      · exact absurd (Order.exists_order_iff.mp ⟨ordered, ho⟩) hcycle
      · have hmem := (mem_clearScript_iff ho).mpr ⟨table, htable, rfl⟩
        exact absurd hrefused (haccepted (dropSql table.name, []) hmem)
    · cases hnames
      rw [← ht.contents] at htakes
      exact Cleared.of_takes ho htakes ((congrArg committed hcalls).symm.trans ht.transactions)

end SchemaJournal
