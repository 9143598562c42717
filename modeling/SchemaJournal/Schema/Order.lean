import SchemaJournal.Schema.Basic
import SchemaJournal.Error

/-!
# The order of tables

`order` puts every table after the tables that its columns reference: it visits the tables in declaration order and
each table's references before the table itself. Of tables with the same name the last one counts. References of a
table to itself and to tables that are not declared are passed over; a reference to a table that is being visited is a
cycle.

A visit is made along a path of tables, each of which references the next. No name is on a path twice, so a visit ends
because the tables that are not on the path become fewer (`offPath_lt`).
-/

namespace SchemaJournal.Order

/-- The table that a name stands for: the last one declared under it. -/
def node? (tables : List Table) (name : String) : Option Table := tables.reverse.find? (·.name == name)

/-- A name stands for a declared table of this name. -/
theorem node?_some {tables : List Table} {name : String} {t : Table} (h : node? tables name = some t) :
    t ∈ tables ∧ t.name = name :=
  ⟨List.mem_reverse.1 (List.mem_of_find?_eq_some h), by simpa using List.find?_some h⟩

/-- How many declared tables are not on a path. -/
def offPath (tables : List Table) (path : List String) : Nat := (tables.filter fun t => !path.contains t.name).length

/-- A longer path leaves fewer tables off it. -/
theorem offPath_lt {tables : List Table} {path : List String} {name : String} {t : Table}
    (h : node? tables name = some t) (hp : path.contains name = false) :
    offPath tables (name :: path) < offPath tables path := by
  obtain ⟨hm, rfl⟩ := node?_some h
  have hsub : (tables.filter fun u => !(t.name :: path).contains u.name) =
      (tables.filter fun u => !path.contains u.name).filter fun u => !(t.name == u.name) := by
    rw [List.filter_filter]
    congr 1
    funext u
    cases hu : (t.name == u.name)
    · have hu : t.name ≠ u.name := by simpa using hu
      simp [Ne.symm hu]
    · have hu : t.name = u.name := by simpa using hu
      simp [hu]
  unfold offPath
  rw [hsub]
  apply List.length_filter_lt_length_iff_exists.2
  exact ⟨t, List.mem_filter.2 ⟨hm, by simpa using hp⟩, by simp⟩

/-- The other tables that a table references. -/
def dependencies (t : Table) : List String := t.referencedTables.filter (· != t.name)

mutual

/-- Visits the table of a name, unless it is among those done already. -/
def visit (tables : List Table) (path : List String) (done : List Table) (name : String) : Except Error (List Table) :=
  match h : node? tables name with
  | none => .ok done
  | some t =>
    if done.any (·.name == name) then
      .ok done
    else if hp : path.contains name then
      .error (.circularDependency name)
    else do
      have := offPath_lt h (by simpa using hp)
      let done ← visitAll tables (name :: path) done (dependencies t)
      return done ++ [t]
termination_by (offPath tables path, 0)

/-- Visits the tables of several names. -/
def visitAll (tables : List Table) (path : List String) (done : List Table) :
    List String → Except Error (List Table)
  | [] => .ok done
  | name :: rest => do
    let done ← visit tables path done name
    visitAll tables path done rest
termination_by names => (offPath tables path, names.length + 1)

end

end SchemaJournal.Order

namespace SchemaJournal

/-- The tables in an order in which every table follows the other tables that it references. -/
def order (tables : List Table) : Except Error (List Table) :=
  Order.visitAll tables [] [] (tables.map (·.name))

end SchemaJournal
