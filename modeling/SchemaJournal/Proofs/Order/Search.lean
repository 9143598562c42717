import Mathlib.Data.Finset.Card
import Mathlib.Data.Finset.Dedup
import SchemaJournal.Proofs.Order.Sound

/-!
# The search behind the order

The order is found by a depth-first search, which keeps the names that it has visited, the names that are on its stack,
and the tables that it has put out (`Search`). `Search.Runs` says how its tasks end, step by step and without any bound:
a name is put on the stack, all that its table depends on is visited, and then the name is taken from the stack. A task
ends in one way (`Runs.unique`), and it does what the visits of `Order` do along the path of names that are being
visited (`visits_doneBy`), so it ends.

`Search.Called` are the visits that an order makes. At the start of each of them the stack holds the names of the path,
each once, and what was put out is settled (`Called.underway`): a step onto the path or out of it keeps this
(`Underway.enter`, `Underway.visited`). From this follow what a visit finds, how deep it stands and what it leaves
behind (`order_search`).
-/

namespace SchemaJournal.Order

/-- What a search keeps while it runs. -/
structure Search where
  visited : Finset String
  onStack : Finset String
  sorted : List Table

namespace Search

/-- The search before its first visit. -/
def start : Search := ⟨∅, ∅, []⟩

/-- A name is put on the stack. -/
def enter (s : Search) (name : String) : Search := { s with onStack := insert name s.onStack }

/-- A table is finished: its name leaves the stack. -/
def leave (s : Search) (t : Table) : Search where
  visited := insert t.name s.visited
  onStack := s.onStack.erase t.name
  sorted := s.sorted ++ [t]

/-- What a search does: it visits a name, or several in turn. -/
inductive Task where
  | visit (name : String)
  | visitAll (names : List String)

/-- How a task ends, and what it leaves behind. -/
inductive Runs (tables : List Table) : Search → Task → Except Error Unit → Search → Prop
  | dangling {s : Search} {name : String} (hnode : node? tables name = none) : Runs tables s (.visit name) (.ok ()) s
  | visited {s : Search} {name : String} {t : Table} (hnode : node? tables name = some t)
    (hvisited : name ∈ s.visited) : Runs tables s (.visit name) (.ok ()) s
  | cycle {s : Search} {name : String} {t : Table} (hnode : node? tables name = some t) (hnew : name ∉ s.visited)
    (hstack : name ∈ s.onStack) : Runs tables s (.visit name) (.error (.circularDependency name)) s
  | finished {s s' : Search} {name : String} {t : Table} (hnode : node? tables name = some t)
    (hnew : name ∉ s.visited) (hfree : name ∉ s.onStack)
    (hdeps : Runs tables (s.enter name) (.visitAll (dependencies t)) (.ok ()) s') :
    Runs tables s (.visit name) (.ok ()) (s'.leave t)
  | failed {s s' : Search} {name : String} {t : Table} {e : Error} (hnode : node? tables name = some t)
    (hnew : name ∉ s.visited) (hfree : name ∉ s.onStack)
    (hdeps : Runs tables (s.enter name) (.visitAll (dependencies t)) (.error e) s') :
    Runs tables s (.visit name) (.error e) s'
  | nothing {s : Search} : Runs tables s (.visitAll []) (.ok ()) s
  | next {s s' s'' : Search} {name : String} {rest : List String} {outcome : Except Error Unit}
    (hname : Runs tables s (.visit name) (.ok ()) s') (hrest : Runs tables s' (.visitAll rest) outcome s'') :
    Runs tables s (.visitAll (name :: rest)) outcome s''
  | stop {s s' : Search} {name : String} {rest : List String} {e : Error}
    (hname : Runs tables s (.visit name) (.error e) s') : Runs tables s (.visitAll (name :: rest)) (.error e) s'

variable {tables : List Table}

/-! ## Ends of a task -/

variable {path names : List String} {done done' : List Table} {name : String} {t : Table} {s s' : Search}
  {outcome : Except Error Unit}

/-- A visit of a node that is new goes on to what the node depends on. -/
theorem Runs.of_fresh (hnode : node? tables name = some t) (hnew : name ∉ s.visited) (hfree : name ∉ s.onStack)
    (h : Runs tables s (.visit name) outcome s') :
    (∃ between, Runs tables (s.enter name) (.visitAll (dependencies t)) (.ok ()) between ∧ outcome = .ok () ∧
      s' = between.leave t) ∨
    ∃ e, Runs tables (s.enter name) (.visitAll (dependencies t)) (.error e) s' ∧ outcome = .error e := by
  cases h with
  | dangling hnode' => cases hnode.symm.trans hnode'
  | visited _ hvisited => exact absurd hvisited hnew
  | cycle _ _ hstack => exact absurd hstack hfree
  | finished hnode' _ _ hdeps =>
    cases hnode.symm.trans hnode'
    exact .inl ⟨_, hdeps, rfl, rfl⟩
  | failed hnode' _ _ hdeps =>
    cases hnode.symm.trans hnode'
    exact .inr ⟨_, hdeps, rfl⟩

/-- A task ends in one way. -/
theorem Runs.unique {task : Task} {s₁ s₂ : Search} {o₁ o₂ : Except Error Unit} (h₁ : Runs tables s task o₁ s₁)
    (h₂ : Runs tables s task o₂ s₂) : o₁ = o₂ ∧ s₁ = s₂ := by
  induction h₁ generalizing o₂ s₂ with
  | dangling hnode => cases h₂ <;> simp_all
  | visited hnode hvisited => cases h₂ <;> simp_all
  | cycle hnode hnew hstack => cases h₂ <;> simp_all
  | finished hnode hnew hfree _ ih =>
    rcases h₂.of_fresh hnode hnew hfree with ⟨between, hdeps, rfl, rfl⟩ | ⟨e, hdeps, rfl⟩
    · exact ⟨rfl, congrArg (leave · _) (ih hdeps).2⟩
    · cases (ih hdeps).1
  | failed hnode hnew hfree _ ih =>
    rcases h₂.of_fresh hnode hnew hfree with ⟨between, hdeps, rfl, rfl⟩ | ⟨e, hdeps, rfl⟩
    · cases (ih hdeps).1
    · exact ih hdeps
  | nothing =>
    cases h₂
    exact ⟨rfl, rfl⟩
  | next _ _ ih ihrest =>
    cases h₂ with
    | next hname hrest =>
      obtain ⟨-, rfl⟩ := ih hname
      exact ihrest hrest
    | stop hname => cases (ih hname).1
  | stop _ ih =>
    cases h₂ with
    | next hname _ => cases (ih hname).1
    | stop hname => exact ih hname

/-! ## The search and the visits -/

/-- The search while the tables of `done` are finished and the names of a path are being visited. -/
def along (path : List String) (done : List Table) : Search := ⟨(done.map (·.name)).toFinset, path.toFinset, done⟩

theorem mem_visited_along : name ∈ (along path done).visited ↔ done.any (·.name == name) = true := by
  simp [along]

theorem mem_onStack_along : name ∈ (along path done).onStack ↔ path.contains name = true := by
  simp [along]

theorem along_enter : (along path done).enter name = along (name :: path) done := by
  simp [along, enter]

/-- The name that was put on the stack is taken from it again. -/
theorem along_leave (hname : t.name = name) (hfree : ¬path.contains name) :
    (along (name :: path) done).leave t = along path (done ++ [t]) := by
  subst hname
  have hpath : t.name ∉ path.toFinset := by simpa using hfree
  simp only [along, leave, List.toFinset_cons, Finset.erase_insert hpath, List.map_append, List.toFinset_append,
    List.map_singleton, List.toFinset_nil, Finset.insert_empty, Finset.union_singleton]

/-- How a task ends that is done by visits along a path. -/
structure DoneBy (tables : List Table) (path : List String) (done : List Table) (task : Task)
    (result : Except Error (List Table)) : Prop where
  ok : ∀ done', result = .ok done' → Runs tables (along path done) task (.ok ()) (along path done')
  error : ∀ e, result = .error e → ∃ s, Runs tables (along path done) task (.error e) s

namespace DoneBy

theorem of_ok {task : Task} (h : Runs tables (along path done) task (.ok ()) (along path done')) :
    DoneBy tables path done task (.ok done') := ⟨by rintro _ ⟨⟩; exact h, nofun⟩

theorem of_error {task : Task} {e : Error} (h : Runs tables (along path done) task (.error e) s) :
    DoneBy tables path done task (.error e) := ⟨nofun, by rintro _ ⟨⟩; exact ⟨s, h⟩⟩

end DoneBy

/-- The search does what the visits do. The induction is on the visits themselves. -/
theorem visits_doneBy (tables : List Table) :
    (∀ path done name, DoneBy tables path done (.visit name) (visit tables path done name)) ∧
    ∀ path done names, DoneBy tables path done (.visitAll names) (visitAll tables path done names) := by
  apply visit.mutual_induct tables
  case case1 =>
    intro path done name hnode
    rw [visit_none hnode]
    exact .of_ok (.dangling hnode)
  case case2 =>
    intro path done name t hnode hdone
    rw [visit_done hnode hdone]
    exact .of_ok (.visited hnode (mem_visited_along.mpr hdone))
  case case3 =>
    intro path done name t hnode hdone hpath
    rw [visit_cycle hnode hdone hpath]
    exact .of_error (.cycle hnode (mem_visited_along.not.mpr hdone) (mem_onStack_along.mpr hpath))
  case case4 =>
    intro path done name t hnode hdone hpath _ ih
    have hnew : name ∉ (along path done).visited := mem_visited_along.not.mpr hdone
    have hfree : name ∉ (along path done).onStack := mem_onStack_along.not.mpr hpath
    rw [visit_fresh hnode hdone hpath]
    cases hdeps : visitAll tables (name :: path) done (dependencies t) with
    | error e =>
      obtain ⟨s, hs⟩ := ih.error e hdeps
      exact .of_error (.failed hnode hnew hfree (along_enter ▸ hs))
    | ok middle =>
      have hmiddle := Runs.finished hnode hnew hfree (along_enter ▸ ih.ok middle hdeps)
      rw [along_leave (node?_some hnode).2 hpath] at hmiddle
      exact .of_ok hmiddle
  case case5 =>
    intro path done
    rw [visitAll]
    exact .of_ok .nothing
  case case6 =>
    intro path done name rest ih ihrest
    rw [visitAll]
    cases hname : visit tables path done name with
    | error e =>
      obtain ⟨s, hs⟩ := ih.error e hname
      exact .of_error (.stop hs)
    | ok middle =>
      have hnext := ihrest middle
      exact ⟨fun done' hrest => .next (ih.ok middle hname) (hnext.ok done' hrest), fun e hrest =>
        (hnext.error e hrest).imp fun s => .next (ih.ok middle hname)⟩

/-- What was done before and after a task that succeeds. -/
theorem DoneBy.exists_of_runs {task : Task} {result : Except Error (List Table)}
    (h : DoneBy tables path done task result) (hruns : Runs tables (along path done) task (.ok ()) s') :
    ∃ done', result = .ok done' ∧ s' = along path done' := by
  cases result with
  | ok done' => exact ⟨done', rfl, (hruns.unique (h.ok done' rfl)).2⟩
  | error e =>
    obtain ⟨s, hs⟩ := h.error e rfl
    cases (hruns.unique hs).1

/-! ## Calls -/

/-- The visits that an order makes, with the names that are being visited then, the last one first, and with the search
as it is at their start. -/
inductive Called (tables : List Table) : List String → Search → String → Prop
  | declared {before after : List String} {name : String} {s : Search}
    (hsplit : tables.map (·.name) = before ++ name :: after)
    (hbefore : Runs tables start (.visitAll before) (.ok ()) s) : Called tables [] s name
  | dependency {path before after : List String} {name target : String} {t : Table} {s s' : Search}
    (hcalled : Called tables path s name) (hnode : node? tables name = some t) (hnew : name ∉ s.visited)
    (hfree : name ∉ s.onStack) (hsplit : dependencies t = before ++ target :: after)
    (hbefore : Runs tables (s.enter name) (.visitAll before) (.ok ()) s') : Called tables (name :: path) s' target

/-- What holds of a search along a path. -/
structure Sound (tables : List Table) (path : List String) (s : Search) : Prop where
  onStack : s.onStack = path.toFinset
  nodup : path.Nodup
  disjoint : Disjoint s.onStack s.visited
  declared : s.onStack ∪ s.visited ⊆ (tables.map (·.name)).toFinset
  visited : ∀ name, name ∈ s.visited ↔ name ∈ s.sorted.map (·.name)
  sorted : (s.sorted.map (·.name)).Nodup
  node : ∀ t ∈ s.sorted, node? tables t.name = some t
  closed : ∀ t ∈ s.sorted, ∀ target ∈ t.referencedTables, target ≠ t.name → target ∈ tables.map (·.name) →
    target ∈ s.visited

/-- What a visit leaves behind that succeeds. -/
structure Returns (tables : List Table) (s : Search) (name : String) (s' : Search) : Prop where
  onStack : s'.onStack = s.onStack
  sorted : s.sorted <+: s'.sorted
  visited : name ∈ tables.map (·.name) → name ∈ s'.visited

/-- Settled tables, and the names on a path, each of them a node that is not settled. -/
structure Underway (tables : List Table) (path : List String) (done : List Table) : Prop where
  settled : Settled tables done
  nodup : path.Nodup
  node : ∀ name ∈ path, IsNode tables name
  fresh : ∀ name ∈ path, name ∉ done.map (·.name)

theorem isNode_iff : IsNode tables name ↔ name ∈ tables.map (·.name) := by
  constructor
  · rintro ⟨t, ht⟩
    obtain ⟨hmem, rfl⟩ := node?_some ht
    exact List.mem_map_of_mem hmem
  · intro hname
    obtain ⟨t, ht, rfl⟩ := List.mem_map.mp hname
    exact isNode_of_mem ht

namespace Underway

theorem start : Underway tables [] [] := ⟨.nil, List.nodup_nil, nofun, nofun⟩

/-- What visits settle is not on their path. -/
theorem visited (h : Underway tables path done) (hext : Extends tables path done done') :
    Underway tables path done' := by
  obtain ⟨new, rfl, hnew⟩ := hext.appends
  refine ⟨hext.settled h.settled, h.nodup, h.node, fun name hname hdone => ?_⟩
  rw [List.map_append, List.mem_append] at hdone
  rcases hdone with hdone | hdone
  · exact h.fresh name hname hdone
  · obtain ⟨t, ht, rfl⟩ := List.mem_map.mp hdone
    exact hnew t ht hname

theorem enter (h : Underway tables path done) (hnode : node? tables name = some t)
    (hnew : name ∉ (along path done).visited) (hfree : name ∉ (along path done).onStack) :
    Underway tables (name :: path) done where
  settled := h.settled
  nodup := List.nodup_cons.mpr ⟨by simpa [along] using hfree, h.nodup⟩
  node := List.forall_mem_cons.mpr ⟨⟨t, hnode⟩, h.node⟩
  fresh := List.forall_mem_cons.mpr ⟨by simpa [along] using hnew, h.fresh⟩

theorem sound (h : Underway tables path done) : Sound tables path (along path done) where
  onStack := rfl
  nodup := h.nodup
  disjoint := Finset.disjoint_left.mpr fun name hpath hdone =>
    h.fresh name (List.mem_toFinset.mp hpath) (List.mem_toFinset.mp hdone)
  declared := by
    refine Finset.union_subset (fun name hpath => ?_) fun name hdone => ?_
    · exact List.mem_toFinset.mpr (isNode_iff.mp (h.node name (List.mem_toFinset.mp hpath)))
    · obtain ⟨t, ht, rfl⟩ := List.mem_map.mp (List.mem_toFinset.mp hdone)
      exact List.mem_toFinset.mpr (isNode_iff.mp ⟨t, h.settled.node t ht⟩)
  visited _ := List.mem_toFinset
  sorted := h.settled.nodup
  node := h.settled.node
  closed t ht target href hne hdeclared := by
    obtain ⟨before, after, hsplit⟩ : ∃ before after, done = before ++ t :: after := List.append_of_mem ht
    have hdep : target ∈ dependencies t := List.mem_filter.mpr ⟨href, by simpa using hne⟩
    have hbefore := h.settled.closed before t after hsplit target
      ⟨t, h.settled.node t ht, hdep, isNode_iff.mpr hdeclared⟩
    refine List.mem_toFinset.mpr ?_
    rw [hsplit, List.map_append]
    exact List.mem_append_left _ hbefore

/-- No more names are on a path than are declared. -/
theorem length_le (h : Underway tables path done) : path.length ≤ (tables.map (·.name)).toFinset.card := by
  rw [← List.toFinset_card_of_nodup h.nodup]
  exact Finset.card_le_card (Finset.subset_union_left.trans h.sound.declared)

end Underway

/-- At the start of a visit some tables are settled, and the names on the stack are those of the path. The induction is
on the calls that lead to the visit. -/
theorem Called.underway (h : Called tables path s name) : ∃ done, s = along path done ∧ Underway tables path done := by
  induction h with
  | declared hsplit hbefore =>
    obtain ⟨done, hdone, rfl⟩ := ((visits_doneBy tables).2 [] [] _).exists_of_runs hbefore
    exact ⟨done, rfl, Underway.start.visited ((visits_extend tables).2 _ _ _ _ hdone).1⟩
  | dependency _ hnode hnew hfree _ hbefore ih =>
    obtain ⟨done, rfl, hunderway⟩ := ih
    rw [along_enter] at hbefore
    obtain ⟨done', hdone', rfl⟩ := ((visits_doneBy tables).2 _ _ _).exists_of_runs hbefore
    exact ⟨done', rfl, (hunderway.enter hnode hnew hfree).visited ((visits_extend tables).2 _ _ _ _ hdone').1⟩

theorem returns_of_visit (h : visit tables path done name = .ok done') :
    Returns tables (along path done) name (along path done') := by
  obtain ⟨hext, hmem⟩ := (visits_extend tables).1 _ _ _ _ h
  obtain ⟨new, hnew, -⟩ := hext.appends
  exact ⟨rfl, ⟨new, hnew.symm⟩, fun hname => List.mem_toFinset.mpr (hmem (isNode_iff.mpr hname))⟩

/-- A visit ends. -/
theorem DoneBy.ends {task : Task} {result : Except Error (List Table)} (h : DoneBy tables path done task result) :
    ∃ outcome s', Runs tables (along path done) task outcome s' := by
  cases result with
  | ok done' => exact ⟨_, _, h.ok done' rfl⟩
  | error e =>
    obtain ⟨s, hs⟩ := h.error e rfl
    exact ⟨_, s, hs⟩

/-- **The search.** On any tables, every visit that an order makes ends, and in one way. When it starts, the names on the
stack are those on its path, each once, so it stands at most one deeper than there are names; no name on the stack is
visited, and the visited names are those of the tables that were put out, each once and with all that they reference. A
visit that succeeds leaves the stack as it was and only appends, and its own name is visited then. The search does what
the order and its visits do. -/
theorem order_search (tables : List Table) :
    (∀ path s name, Called tables path s name →
      Sound tables path s ∧ path.length + 1 ≤ (tables.map (·.name)).toFinset.card + 1 ∧
      (∃ outcome s', Runs tables s (.visit name) outcome s' ∧
        ∀ outcome' s'', Runs tables s (.visit name) outcome' s'' → outcome' = outcome ∧ s'' = s') ∧
      ∀ s', Runs tables s (.visit name) (.ok ()) s' → Returns tables s name s') ∧
    (∀ path done name, DoneBy tables path done (.visit name) (visit tables path done name)) ∧
    DoneBy tables [] [] (.visitAll (tables.map (·.name))) (order tables) := by
  refine ⟨fun path s name hcalled => ?_, (visits_doneBy tables).1, (visits_doneBy tables).2 [] [] _⟩
  obtain ⟨done, rfl, hunderway⟩ := hcalled.underway
  have hvisit := (visits_doneBy tables).1 path done name
  refine ⟨hunderway.sound, Nat.succ_le_succ hunderway.length_le, ?_, fun s' hruns => ?_⟩
  · obtain ⟨outcome, s', hruns⟩ := hvisit.ends
    exact ⟨outcome, s', hruns, fun _ _ hruns' => hruns'.unique hruns⟩
  · obtain ⟨done', hdone', rfl⟩ := hvisit.exists_of_runs hruns
    exact returns_of_visit hdone'

/-- Two tables that reference each other. -/
def paired : List Table :=
  let pointing (name target : String) := (Table.named name).withColumn "other"
    { Column.ofType .uuid with references := some ⟨target, "id", none⟩ }
  [pointing "a" "b", pointing "b" "a"]

/-- A visit can stand as deep as it may: under both names of a cycle. -/
theorem paired_search : ∃ s, Called paired ["b", "a"] s "a" ∧ Sound paired ["b", "a"] s ∧
    ["b", "a"].length = (paired.map (·.name)).toFinset.card ∧
    Runs paired s (.visit "a") (.error (.circularDependency "a")) s := by
  have hfirst : Called paired [] start "a" :=
    .declared (show paired.map (·.name) = [] ++ "a" :: ["b"] from rfl) .nothing
  have hsecond : Called paired ["a"] (start.enter "a") "b" :=
    .dependency hfirst rfl List.not_mem_nil List.not_mem_nil
      (show dependencies _ = [] ++ "b" :: [] by decide +kernel) .nothing
  have hthird : Called paired ["b", "a"] ((start.enter "a").enter "b") "a" :=
    .dependency hsecond rfl List.not_mem_nil (by decide)
      (show dependencies _ = [] ++ "a" :: [] by decide +kernel) .nothing
  exact ⟨_, hthird, ((order_search paired).1 _ _ _ hthird).1, by decide, .cycle rfl List.not_mem_nil (by decide)⟩

end Search

end SchemaJournal.Order
