import SchemaJournal.Database.Store
import SchemaJournal.Proofs.Text.Search
import SchemaJournal.Proofs.Transaction.Discipline

/-!
# Transactions of a store

A transaction changes the contents of a store as a whole or not at all (`commit_cases`), and so does a sequence of
transactions, one after the other (`Replays`).

- `change` is what a statement without parameters does to the tables; no record can come or go with it
  (`apply_bare`, `applyAll_bare`);
- `takes_up`, `takes_down` and `takes_bare` say what the script of a migration and a script without parameters make of
  the contents: the tables change as their statements say, and one record comes, or goes, or none does;
- `replays_up` replays the statements of migrations without their records.
-/

namespace SchemaJournal.Database

/-- What transactions change in a store for good. -/
structure Contents where
  records : List Record
  tables : List String
  executed : List String
  commits : Nat

namespace Store

variable {s s' s'' : Store} {script rest : List Prepared} {sqls tables : List String} {e : Error} {k k' : Contents}

/-- The contents of a store. -/
def contents (s : Store) : Contents := ⟨s.records, s.tables, s.executed, s.commits⟩

/-! ## Single statements -/

theorem insertRecord_run (params : List Value) (s : Store) : insertRecord params s =
    match timeParameter params, textParameter params 0, textParameter params 1 with
    | .error e, _, _ => (.error e, s)
    | .ok _, .error e, _ => (.error e, s)
    | .ok _, .ok _, .error e => (.error e, s)
    | .ok timestamp, .ok id, .ok name =>
      if s.records.any (·.id == id) then (.error (.database ("duplicate key " ++ id)), s.tick)
      else (.ok (), { s.tick with records := s.records ++ [⟨id, name, timestamp, s.tick.now⟩] }) := by
  unfold insertRecord
  rcases timeParameter params with e | timestamp
  · rfl
  rcases textParameter params 0 with e | id
  · rfl
  rcases textParameter params 1 with e | name
  · rfl
  show (if s.records.any (·.id == id) then _ else _ : Action Store Unit) _ = if _ then _ else _
  split
  · rfl
  · rfl

theorem apply_run (sql : String) (params : List Value) (s : Store) : apply sql params s =
    match Effect.ofSql sql with
    | .createTracking => (.ok (), { s with tracking := true })
    | .insertRecord => insertRecord params s
    | .deleteRecord => (.ok (), deleteRecord params s)
    | .createTable name =>
      if s.tables.contains name then (.error (.database ("relation \"" ++ name ++ "\" already exists")), s)
      else (.ok (), { s with tables := s.tables ++ [name] })
    | .dropTable name => (.ok (), { s with tables := s.tables.filter (· != name) })
    | .nothing => (.ok (), s) := by
  unfold apply
  cases Effect.ofSql sql with
  | createTable name =>
    show (if s.tables.contains name then _ else _ : Action Store Unit) s = if _ then _ else _
    split
    · rfl
    · rfl
  | createTracking => rfl
  | insertRecord => rfl
  | deleteRecord => rfl
  | dropTable name => rfl
  | nothing => rfl

theorem applyAll_cons (sql : String) (params : List Value) (rest : List Prepared) (s : Store) :
    applyAll ((sql, params) :: rest) s = match apply sql params s with
      | (.ok _, s') => applyAll rest s'
      | (.error e, s') => (.error e, s') := by
  show (apply sql params >>= fun _ => applyAll rest) s = _
  rw [Attempt.bind_run]
  rcases apply sql params s with ⟨_ | _, _⟩
  · rfl
  · rfl

theorem applyAll_single (p : Prepared) (s : Store) : applyAll [p] s = apply p.1 p.2 s := by
  obtain ⟨sql, params⟩ := p
  rw [applyAll_cons]
  rcases apply sql params s with ⟨_ | _, _⟩
  · rfl
  · rfl

/-! ## What statements leave alone -/

/-- Nothing has changed but the tracking table, the records, the tables and the clock. -/
structure Frame (s s' : Store) : Prop where
  executed : s'.executed = s.executed
  failing : s'.failing = s.failing
  commits : s'.commits = s.commits

theorem Frame.refl (s : Store) : Frame s s := ⟨rfl, rfl, rfl⟩

theorem Frame.trans (h : Frame s s') (h' : Frame s' s'') : Frame s s'' :=
  ⟨h'.executed.trans h.executed, h'.failing.trans h.failing, h'.commits.trans h.commits⟩

theorem insertRecord_frame (params : List Value) (s : Store) : Frame s (insertRecord params s).2 := by
  rw [insertRecord_run]
  rcases timeParameter params with e | timestamp
  · exact .refl s
  rcases textParameter params 0 with e | id
  · exact .refl s
  rcases textParameter params 1 with e | name
  · exact .refl s
  show Frame s (if _ then _ else _ : Except Error Unit × Store).2
  split
  · exact ⟨rfl, rfl, rfl⟩
  · exact ⟨rfl, rfl, rfl⟩

theorem deleteRecord_frame (params : List Value) (s : Store) : Frame s (deleteRecord params s) := by
  unfold deleteRecord
  split
  · exact ⟨rfl, rfl, rfl⟩
  · exact .refl s

theorem apply_frame (sql : String) (params : List Value) (s : Store) : Frame s (apply sql params s).2 := by
  rw [apply_run]
  cases Effect.ofSql sql with
  | createTracking => exact ⟨rfl, rfl, rfl⟩
  | insertRecord => exact insertRecord_frame params s
  | deleteRecord => exact deleteRecord_frame params s
  | createTable name =>
    show Frame s (if _ then _ else _ : Except Error Unit × Store).2
    split
    · exact .refl s
    · exact ⟨rfl, rfl, rfl⟩
  | dropTable name => exact ⟨rfl, rfl, rfl⟩
  | nothing => exact .refl s

theorem applyAll_frame (script : List Prepared) (s : Store) : Frame s (applyAll script s).2 := by
  induction script generalizing s with
  | nil => exact .refl s
  | cons p rest ih =>
    obtain ⟨sql, params⟩ := p
    have hp := apply_frame sql params s
    rw [applyAll_cons]
    rcases h : apply sql params s with ⟨_ | _, s'⟩
    · rwa [h] at hp
    · rw [h] at hp
      exact hp.trans (ih s')

/-! ## Transactions as a whole -/

/-- A script takes effect on some contents and leaves others. -/
def Takes (script : List Prepared) (k k' : Contents) : Prop :=
  ∃ s s' : Store, s.contents = k ∧ commit script s = (.ok (), s') ∧ s'.contents = k'

/-- A script cannot take effect on some contents. -/
def Fails (script : List Prepared) (k : Contents) (e : Error) : Prop :=
  ∃ s s' : Store, s.contents = k ∧ commit script s = (.error e, s')

/-- A transaction that takes effect lists its statements and counts. -/
theorem commit_ok (h : commit script s = (.ok (), s')) : ∃ after, applyAll script s = (.ok (), after) ∧
    s'.contents = ⟨after.records, after.tables, s.executed ++ (script.map (·.1)).filter isListed, s.commits + 1⟩ ∧
    s'.failing = s.failing := by
  have hf := applyAll_frame script s
  unfold commit at h
  rcases ha : applyAll script s with ⟨_ | _, after⟩
  · rw [ha] at h
    cases h
  · rw [ha] at h hf
    cases h
    refine ⟨after, rfl, ?_, hf.failing⟩
    show Contents.mk _ _ (after.executed ++ _) (after.commits + 1) = _
    rw [hf.executed, hf.commits]

theorem commit_error (h : commit script s = (.error e, s')) : s'.contents = s.contents ∧ s'.failing = s.failing := by
  have hf := applyAll_frame script s
  unfold commit at h
  rcases ha : applyAll script s with ⟨_ | _, after⟩
  · rw [ha] at h hf
    cases h
    refine ⟨?_, hf.failing⟩
    show Contents.mk _ _ after.executed after.commits = _
    rw [hf.executed, hf.commits]
    rfl
  · rw [ha] at h
    cases h

/-- A transaction takes effect, or else it fails and leaves the contents. -/
theorem commit_cases (script : List Prepared) (s : Store) :
    (∃ s', commit script s = (.ok (), s') ∧ Takes script s.contents s'.contents ∧ s'.failing = s.failing) ∨
      ∃ e s', commit script s = (.error e, s') ∧ Fails script s.contents e ∧ s'.contents = s.contents ∧
        s'.failing = s.failing := by
  rcases h : commit script s with ⟨e | _, s'⟩
  · exact .inr ⟨e, s', rfl, ⟨s, s', rfl, h⟩, commit_error h⟩
  · obtain ⟨_, _, _, hf⟩ := commit_ok h
    exact .inl ⟨s', rfl, ⟨s, s', rfl, h, rfl⟩, hf⟩

/-! ## Statements without parameters -/

/-- What a statement without parameters makes of the tables. -/
def change (sql : String) (tables : List String) : Except Error (List String) :=
  match Effect.ofSql sql with
  | .insertRecord => .error (.database ("bad timestamp: " ++ Value.parameterShown none))
  | .createTable name =>
    if tables.contains name then .error (.database ("relation \"" ++ name ++ "\" already exists"))
    else .ok (tables ++ [name])
  | .dropTable name => .ok (tables.filter (· != name))
  | .createTracking | .deleteRecord | .nothing => .ok tables

/-- What statements without parameters make of the tables. -/
def changes : List String → List String → Except Error (List String)
  | [], tables => .ok tables
  | sql :: rest, tables => do changes rest (← change sql tables)

/-- A statement without parameters changes the tables, and it may create the tracking table. -/
theorem apply_bare (sql : String) (s : Store) : ∃ tracking, apply sql [] s = match change sql s.tables with
    | .ok tables => (.ok (), { s with tracking, tables })
    | .error e => (.error e, s) := by
  rw [apply_run]
  unfold change
  cases Effect.ofSql sql with
  | createTracking => exact ⟨true, rfl⟩
  | insertRecord => exact ⟨s.tracking, rfl⟩
  | deleteRecord => exact ⟨s.tracking, rfl⟩
  | createTable name =>
    refine ⟨s.tracking, ?_⟩
    by_cases h : s.tables.contains name = true
    · simp only [h, if_true]
    · simp only [h]
      rfl
  | dropTable name => exact ⟨s.tracking, rfl⟩
  | nothing => exact ⟨s.tracking, rfl⟩

/-- Statements without parameters before others: they change the tables, or they fail. -/
theorem applyAll_bare (sqls : List String) (rest : List Prepared) (s : Store) :
    match changes sqls s.tables with
    | .ok tables => ∃ tracking, applyAll (sqls.map (·, []) ++ rest) s = applyAll rest { s with tracking, tables }
    | .error e => ∃ s', applyAll (sqls.map (·, []) ++ rest) s = (.error e, s') := by
  induction sqls generalizing s with
  | nil => exact ⟨s.tracking, rfl⟩
  | cons sql sqls ih =>
    obtain ⟨tracking, ha⟩ := apply_bare sql s
    rw [List.map_cons, List.cons_append, applyAll_cons, ha]
    unfold changes
    rcases change sql s.tables with e | tables
    · exact ⟨s, rfl⟩
    · exact ih { s with tracking, tables }

/-- A script that takes effect: its statements without parameters do, and then the rest does. -/
theorem takes_script (h : Takes (sqls.map (·, []) ++ rest) k k') : ∃ tables, changes sqls k.tables = .ok tables ∧
    ∃ s after : Store, s.records = k.records ∧ s.tables = tables ∧ applyAll rest s = (.ok (), after) ∧
      k' = ⟨after.records, after.tables, k.executed ++ (sqls ++ rest.map (·.1)).filter isListed, k.commits + 1⟩ := by
  obtain ⟨s, s', rfl, hc, rfl⟩ := h
  obtain ⟨after, ha, hk, -⟩ := commit_ok hc
  have hb := applyAll_bare sqls rest s
  have hsql : (sqls.map (·, []) ++ rest).map Prod.fst = sqls ++ rest.map Prod.fst := by
    simp [Function.comp_def]
  rw [hsql] at hk
  cases hc : changes sqls s.tables with
  | error e =>
    rw [hc] at hb
    obtain ⟨s'', hb⟩ := hb
    rw [ha] at hb
    cases hb
  | ok tables =>
    rw [hc] at hb
    obtain ⟨tracking, hb⟩ := hb
    exact ⟨tables, hc, { s with tracking, tables }, after, rfl, rfl, hb.symm.trans ha, hk⟩

/-! ## The statements that keep the records -/

theorem ofSql_creation (table : String) : Effect.ofSql (Tracking.createSql table) = .createTracking := by
  have h : "CREATE TABLE IF NOT EXISTS".toList <+: (Tracking.createSql table).toList := by
    unfold Tracking.createSql
    rw [String.toList_append, String.toList_append, String.toList_append]
    refine .trans ?_ (.trans (List.prefix_append _ _) (List.prefix_append _ _))
    exact .trans ⟨[' '], by decide⟩ (List.prefix_append _ _)
  unfold Effect.ofSql
  rw [if_pos (Text.startsWith_iff.mpr h)]

theorem ofSql_insertion (table : String) (m : Migration) :
    Effect.ofSql (Tracking.insertion table m).1 = .insertRecord := by
  simp only [Tracking.insertion, Effect.ofSql, Text.startsWith, String.toList_append]
  rfl

theorem ofSql_removal (table id : String) : Effect.ofSql (Tracking.removal table id).1 = .deleteRecord := by
  simp only [Tracking.removal, Effect.ofSql, Text.startsWith, String.toList_append]
  rfl

theorem not_isListed_insertion (table : String) (m : Migration) :
    isListed (Tracking.insertion table m).1 = false := by
  simp only [Tracking.insertion, isListed, Text.startsWith, String.toList_append]
  rfl

theorem not_isListed_removal (table id : String) : isListed (Tracking.removal table id).1 = false := by
  simp only [Tracking.removal, isListed, Text.startsWith, String.toList_append]
  rfl

/-! ## The scripts of migrations -/

variable {j : Journal} {m : Migration}

/-- The statement that records a migration adds the record, if its id is new. -/
theorem applyAll_insertion (table : String) (m : Migration) (s : Store) : applyAll [Tracking.insertion table m] s =
    if s.records.any (·.id == m.id) then (.error (.database ("duplicate key " ++ m.id)), s.tick)
    else (.ok (), { s.tick with records := s.records ++ [⟨m.id, m.name, m.timestamp, s.tick.now⟩] }) := by
  rw [applyAll_single, apply_run, ofSql_insertion]
  exact insertRecord_run _ s

/-- The statement that removes a record takes it away, if it is there. -/
theorem applyAll_removal (table id : String) (s : Store) : applyAll [Tracking.removal table id] s =
    (.ok (), { s with records := s.records.filter (·.id != id) }) := by
  rw [applyAll_single, apply_run, ofSql_removal]
  rfl

/-- Applying a migration takes effect only if its id is new. It adds the record of the migration. -/
theorem takes_up (h : Takes (j.upScript m) k k') : ∃ tables moment, changes m.up k.tables = .ok tables ∧
    (∀ r ∈ k.records, r.id ≠ m.id) ∧ k' = ⟨k.records ++ [⟨m.id, m.name, m.timestamp, moment⟩], tables,
      k.executed ++ m.up.filter isListed, k.commits + 1⟩ := by
  obtain ⟨tables, ht, s, after, hr, rfl, ha, rfl⟩ := takes_script h
  rw [applyAll_insertion] at ha
  split at ha
  · cases ha
  next hnew =>
    cases ha
    have hlisted : (m.up ++ [Tracking.insertion j.table m].map (·.1)).filter isListed = m.up.filter isListed := by
      simp [not_isListed_insertion]
    refine ⟨s.tables, s.tick.now, ht, ?_, by rw [hlisted, ← hr]; rfl⟩
    simpa [hr] using hnew

/-- Reverting a migration removes its record. -/
theorem takes_down (h : Takes (j.downScript m) k k') : ∃ tables, changes m.down k.tables = .ok tables ∧
    k' = ⟨k.records.filter (·.id != m.id), tables, k.executed ++ m.down.filter isListed, k.commits + 1⟩ := by
  obtain ⟨tables, ht, s, after, hr, rfl, ha, rfl⟩ := takes_script h
  rw [applyAll_removal] at ha
  cases ha
  have hlisted : (m.down ++ [Tracking.removal j.table m.id].map (·.1)).filter isListed = m.down.filter isListed := by
    simp [not_isListed_removal]
  exact ⟨s.tables, ht, by rw [hlisted, ← hr]⟩

theorem takes_bare (h : Takes (sqls.map (·, [])) k k') : ∃ tables, changes sqls k.tables = .ok tables ∧
    k' = ⟨k.records, tables, k.executed ++ sqls.filter isListed, k.commits + 1⟩ := by
  rw [← List.append_nil (sqls.map (·, []))] at h
  obtain ⟨tables, ht, s, after, hr, rfl, ha, rfl⟩ := takes_script h
  cases ha
  exact ⟨s.tables, ht, by rw [hr]; simp⟩

/-! ## Transactions one after the other -/

/-- Scripts take effect one after the other. -/
inductive Replays : List (List Prepared) → Contents → Contents → Prop
  | nil (k : Contents) : Replays [] k k
  | cons {script : List Prepared} {scripts : List (List Prepared)} {k k' k'' : Contents} :
      Takes script k k' → Replays scripts k' k'' → Replays (script :: scripts) k k''

/-- A script without parameters takes effect if its statements can change the tables. -/
theorem commit_bare (h : changes sqls s.tables = .ok tables) : ∃ s', commit (sqls.map (·, [])) s = (.ok (), s') ∧
    s'.contents = ⟨s.records, tables, s.executed ++ sqls.filter isListed, s.commits + 1⟩ := by
  have hb := applyAll_bare sqls [] s
  rw [h, List.append_nil] at hb
  obtain ⟨tracking, hb⟩ := hb
  have hsql : ((sqls.map (·, [])) : List Prepared).map (·.1) = sqls := by simp [Function.comp_def]
  have hc : commit (sqls.map (·, [])) s = (.ok (), { s with
      tracking, tables, executed := s.executed ++ sqls.filter isListed, commits := s.commits + 1 }) := by
    unfold commit
    rw [hb, hsql]
    rfl
  exact ⟨_, hc, rfl⟩

/-- Replayed migrations have added their records. -/
theorem replays_records {migrations : List Migration} (h : Replays (migrations.map j.upScript) k k') :
    ∃ new, k'.records = k.records ++ new ∧
      new.map (fun r => (r.id, r.name, r.timestamp)) = migrations.map fun m => (m.id, m.name, m.timestamp) := by
  induction migrations generalizing k with
  | nil =>
    cases h
    exact ⟨[], by simp, rfl⟩
  | cons m rest ih =>
    cases h with
    | cons hm hrest =>
      obtain ⟨tables, moment, -, -, rfl⟩ := takes_up hm
      obtain ⟨new, hnew, hmap⟩ := ih hrest
      refine ⟨⟨m.id, m.name, m.timestamp, moment⟩ :: new, ?_, ?_⟩
      · rw [hnew, List.append_assoc]
        rfl
      · rw [List.map_cons, List.map_cons, hmap]

end Store

end SchemaJournal.Database
