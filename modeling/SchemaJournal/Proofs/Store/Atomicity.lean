import SchemaJournal.Proofs.Store.Session

/-!
# All of a transaction or nothing

A transaction changes nothing before its commit, and nothing but a counter if it is abandoned. A commit that succeeds
leaves what executing the statements one by one would leave. A commit that fails leaves the records, the tables and what
was executed, but not always the tracking table: a statement before the failing one may have created it
(`transaction_allOrNothing`, `not_tracking_restored`).
-/

namespace SchemaJournal.Database

namespace Store

variable {s after : Store} {script rest : List Prepared} {e : Error}

/-! ## Scripts and their failing statement -/

/-- Whether a statement creates the tracking table. -/
def createsTracking (p : Prepared) : Bool := Effect.ofSql p.1 == .createTracking

theorem insertRecord_tracking (params : List Value) (s : Store) :
    (insertRecord params s).2.tracking = s.tracking := by
  rw [insertRecord_run]
  rcases timeParameter params with e | timestamp
  · rfl
  rcases textParameter params 0 with e | id
  · rfl
  rcases textParameter params 1 with e | name
  · rfl
  show (if _ then _ else _ : Except Error Unit × Store).2.tracking = _
  split
  · rfl
  · rfl

/-- Whether or not it fails, a statement changes the tracking table only by creating it. -/
theorem apply_tracking (p : Prepared) (s : Store) :
    (apply p.1 p.2 s).2.tracking = (s.tracking || createsTracking p) := by
  rw [apply_run, createsTracking]
  cases Effect.ofSql p.1 with
  | createTracking => simp
  | insertRecord => simp [insertRecord_tracking]
  | deleteRecord =>
    show (deleteRecord p.2 s).tracking = _
    unfold deleteRecord
    split
    · simp
    · simp
  | createTable name =>
    show (if _ then _ else _ : Except Error Unit × Store).2.tracking = _
    split
    · simp
    · simp
  | dropTable name => simp
  | nothing => simp

/-- Creating the tracking table never fails. -/
theorem not_createsTracking {p : Prepared} (h : apply p.1 p.2 s = (.error e, after)) : createsTracking p = false := by
  cases hcreates : createsTracking p with
  | false => rfl
  | true =>
    rw [apply_run, eq_of_beq hcreates] at h
    cases h

theorem applyAll_tracking (h : applyAll script s = (.ok (), after)) :
    after.tracking = (s.tracking || script.any createsTracking) := by
  induction script generalizing s with
  | nil =>
    cases h
    simp
  | cons p rest ih =>
    obtain ⟨sql, params⟩ := p
    have hp := apply_tracking (sql, params) s
    rw [applyAll_cons] at h
    rcases happly : apply sql params s with ⟨_ | _, s'⟩
    · rw [happly] at h
      cases h
    · rw [happly] at h hp
      rw [ih h, hp, List.any_cons, Bool.or_assoc]

/-- A script that fails does so at one of its statements, after those before it. -/
theorem exists_of_applyAll_error (h : applyAll script s = (.error e, after)) : ∃ done p rest s',
    script = done ++ p :: rest ∧ applyAll done s = (.ok (), s') ∧ apply p.1 p.2 s' = (.error e, after) := by
  induction script generalizing s with
  | nil => cases h
  | cons p rest ih =>
    obtain ⟨sql, params⟩ := p
    rw [applyAll_cons] at h
    rcases happly : apply sql params s with ⟨_ | _, s₁⟩
    · rw [happly] at h
      exact ⟨[], (sql, params), rest, s, rfl, rfl, happly.trans h⟩
    · rw [happly] at h
      obtain ⟨done, p, rest, s', rfl, hdone, hp⟩ := ih h
      refine ⟨(sql, params) :: done, p, rest, s', rfl, ?_, hp⟩
      rw [applyAll_cons, happly]
      exact hdone

/-- A commit that succeeds has applied all statements. -/
theorem applyAll_of_commit (h : commit script s = (.ok (), after)) : ∃ applied, applyAll script s = (.ok (), applied) ∧
    after.tracking = applied.tracking ∧ after.records = applied.records ∧ after.tables = applied.tables := by
  unfold commit at h
  rcases happly : applyAll script s with ⟨_ | _, applied⟩
  · rw [happly] at h
    cases h
  · rw [happly] at h
    cases h
    exact ⟨applied, rfl, rfl, rfl, rfl⟩

/-- A commit that fails has applied the statements before the failing one. -/
theorem exists_of_commit_error (h : commit script s = (.error e, after)) : ∃ done p rest applied,
    script = done ++ p :: rest ∧ applyAll done s = (.ok (), applied) ∧ (apply p.1 p.2 applied).1 = .error e ∧
      after.tracking = (s.tracking || done.any createsTracking) := by
  unfold commit at h
  rcases happly : applyAll script s with ⟨_ | _, failed⟩
  · rw [happly] at h
    cases h
    obtain ⟨done, p, rest, applied, hsplit, hdone, hp⟩ := exists_of_applyAll_error happly
    refine ⟨done, p, rest, applied, hsplit, hdone, congrArg Prod.fst hp, ?_⟩
    have htracking := apply_tracking p applied
    rwa [hp, not_createsTracking hp, Bool.or_false, applyAll_tracking hdone] at htracking
  · rw [happly] at h
    cases h

/-! ## Scripts in a store that refuses nothing -/

theorem insertRecord_withFailing (params : List Value) (failing : List String) (s : Store) :
    insertRecord params { s with failing } =
      ((insertRecord params s).1, { (insertRecord params s).2 with failing }) := by
  rw [insertRecord_run, insertRecord_run]
  rcases timeParameter params with e | timestamp
  · rfl
  rcases textParameter params 0 with e | id
  · rfl
  rcases textParameter params 1 with e | name
  · rfl
  by_cases hid : s.records.any (·.id == id) = true
  · simp only [hid, if_true]
    rfl
  · simp only [hid]
    rfl

/-- What a statement does, once it is not refused, does not depend on what is refused. -/
theorem apply_withFailing (p : Prepared) (failing : List String) (s : Store) :
    apply p.1 p.2 { s with failing } = ((apply p.1 p.2 s).1, { (apply p.1 p.2 s).2 with failing }) := by
  rw [apply_run, apply_run]
  cases Effect.ofSql p.1 with
  | createTracking => rfl
  | insertRecord => exact insertRecord_withFailing p.2 failing s
  | deleteRecord =>
    show (Except.ok (), deleteRecord p.2 { s with failing }) = _
    unfold deleteRecord
    split
    · rfl
    · rfl
  | createTable name =>
    by_cases hname : s.tables.contains name = true
    · simp only [hname, if_true]
    · simp only [hname]
      rfl
  | dropTable name => rfl
  | nothing => rfl

theorem applyAll_withFailing (script : List Prepared) (failing : List String) (s : Store) :
    applyAll script { s with failing } = ((applyAll script s).1, { (applyAll script s).2 with failing }) := by
  induction script generalizing s with
  | nil => rfl
  | cons p rest ih =>
    obtain ⟨sql, params⟩ := p
    rw [applyAll_cons, applyAll_cons, apply_withFailing (sql, params)]
    rcases apply sql params s with ⟨_ | _, s'⟩
    · rfl
    · exact ih s'

end Store

/-! ## Statements inside and outside of a transaction -/

namespace Memory

variable {m after : Memory} {script : List Prepared} {e : Error}

/-- Executes statements inside the transaction, one after the other. Those that are refused do not matter. -/
def gather (script : List Prepared) (m : Memory) : Memory :=
  script.foldl (fun m p => (pool.executeInside p.1 p.2 m).2) m

/-- A memory in a transaction of which these statements were executed. -/
def inside (script : List Prepared) (m : Memory) : Memory := gather script (pool.begin m).2

/-- Executes statements outside of a transaction, one after the other. -/
def executeAll : List Prepared → Action Memory Unit
  | [] => return ()
  | p :: rest => do
    let _ ← pool.execute p.1 p.2
    executeAll rest

/-- The statements that are not refused. -/
def accepted (m : Memory) (script : List Prepared) : List Prepared :=
  script.filter fun p => !m.store.failing.any (Text.occursIn · p.1)

/-- A memory with the same contents that refuses nothing. -/
def permissive (m : Memory) : Memory := ⟨{ m.store with failing := [] }, []⟩

/-- Statements inside a transaction wait for the commit, and nothing else changes. -/
theorem gather_eq (script : List Prepared) (m : Memory) :
    gather script m = { m with pending := m.pending ++ m.accepted script } := by
  induction script generalizing m with
  | nil =>
    show m = { m with pending := m.pending ++ [] }
    rw [List.append_nil]
  | cons p rest ih =>
    show gather rest (pool.executeInside p.1 p.2 m).2 = _
    rcases executeInside_cases m p.1 p.2 with ⟨hrefuses, hrun⟩ | ⟨hrefuses, hrun⟩
    · have haccepted : m.accepted (p :: rest) = m.accepted rest :=
        List.filter_cons_of_neg (by simpa [Store.Refuses] using hrefuses)
      rw [hrun, ih, haccepted]
    · have haccepted : m.accepted (p :: rest) = p :: m.accepted rest :=
        List.filter_cons_of_pos (by simpa [Store.Refuses] using hrefuses)
      rw [hrun, ih, haccepted]
      show Memory.mk m.store (m.pending ++ [p] ++ m.accepted rest) = _
      rw [List.append_assoc]
      rfl

theorem inside_eq (script : List Prepared) (m : Memory) : inside script m = ⟨m.store, m.accepted script⟩ :=
  gather_eq script _

theorem execute_run (p : Prepared) (h : m.store.failing = []) : pool.execute p.1 p.2 m =
    match Store.apply p.1 p.2 m.store with
      | (.ok (), store) => (.ok 0, { m with store })
      | (.error e, store) => (.error e, { m with store }) := by
  have hcheck : check p.1 m = (.ok (), m) := by
    rw [check_run, Store.check, h]
    rfl
  show (check p.1 >>= fun _ => onStore (Store.apply p.1 p.2) >>= fun _ => pure 0) m = _
  rw [Attempt.bind_ok hcheck, Attempt.bind_run, onStore, Attempt.within]
  rcases Store.apply p.1 p.2 m.store with ⟨_ | _, store⟩
  · rfl
  · rfl

/-- A memory that refuses nothing executes statements by applying them. -/
theorem executeAll_run (script : List Prepared) (h : m.store.failing = []) : executeAll script m =
    ((Store.applyAll script m.store).1, { m with store := (Store.applyAll script m.store).2 }) := by
  induction script generalizing m with
  | nil => rfl
  | cons p rest ih =>
    obtain ⟨sql, params⟩ := p
    have hframe := Store.apply_frame sql params m.store
    show (pool.execute sql params >>= fun _ => executeAll rest) m = _
    rw [Attempt.bind_run, execute_run (sql, params) h, Store.applyAll_cons]
    rcases happly : Store.apply sql params m.store with ⟨_ | _, store⟩
    · rfl
    · rw [happly] at hframe
      exact ih (m := { m with store }) (hframe.failing.trans h)

theorem executeAll_permissive (script : List Prepared) (m : Memory) : executeAll script m.permissive =
    ((Store.applyAll script m.store).1, ⟨{ (Store.applyAll script m.store).2 with failing := [] }, []⟩) := by
  rw [executeAll_run script rfl]
  show ((Store.applyAll script { m.store with failing := [] }).1,
    Memory.mk (Store.applyAll script { m.store with failing := [] }).2 []) = _
  rw [Store.applyAll_withFailing]

/-! ## Transactions as a whole -/

/-- What becomes of a transaction in which some statements were executed. -/
structure AllOrNothing (m : Memory) (script : List Prepared) : Prop where
  /-- Before the commit nothing has changed. -/
  buffered : (inside script m).store = m.store
  /-- A commit leaves what executing the statements one by one leaves. -/
  committed : ∀ after, pool.commit (inside script m) = (.ok (), after) → ∃ direct,
    executeAll (m.accepted script) m.permissive = (.ok (), direct) ∧
      after.store.tracking = direct.store.tracking ∧ after.store.records = direct.store.records ∧
      after.store.tables = direct.store.tables
  /-- A commit that fails leaves the contents. It leaves the tracking table if this was there already, or if no
  statement before the failing one creates it. -/
  failed : ∀ e after, pool.commit (inside script m) = (.error e, after) →
    after.store.contents = m.store.contents ∧ ∃ done p rest direct, m.accepted script = done ++ p :: rest ∧
      executeAll done m.permissive = (.ok (), direct) ∧ (pool.execute p.1 p.2 direct).1 = .error e ∧
      (after.store.tracking = m.store.tracking ↔
        m.store.tracking = true ∨ ∀ q ∈ done, Store.Effect.ofSql q.1 ≠ .createTracking)
  /-- Abandoning it is counted, and nothing else has changed. -/
  abandoned : ∃ after, pool.rollback (inside script m) = (.ok (), after) ∧
    after.store = { m.store with rollbacks := m.store.rollbacks + 1 }

theorem commit_inside {result : Except Error Unit} (h : pool.commit (inside script m) = (result, after)) :
    Store.commit (m.accepted script) m.store = (result, after.store) := by
  rw [inside_eq, commit_run] at h
  cases h
  rfl

/-- **All or nothing.** A transaction changes nothing before its commit. A commit has the effect of the statements one
by one, or else it leaves the contents, and the tracking table unless one of the statements before the failing one
creates it. -/
theorem transaction_allOrNothing (m : Memory) (script : List Prepared) : AllOrNothing m script where
  buffered := by rw [inside_eq]
  committed after h := by
    obtain ⟨store, happly, htracking, hrecords, htables⟩ := Store.applyAll_of_commit (commit_inside h)
    refine ⟨⟨{ store with failing := [] }, []⟩, ?_, htracking, hrecords, htables⟩
    rw [executeAll_permissive, happly]
  failed e after h := by
    have hcommit := commit_inside h
    obtain ⟨done, p, rest, store, hsplit, hdone, hp, htracking⟩ := Store.exists_of_commit_error hcommit
    refine ⟨(Store.commit_error hcommit).1, done, p, rest, ⟨{ store with failing := [] }, []⟩, hsplit, ?_, ?_, ?_⟩
    · rw [executeAll_permissive, hdone]
    · rw [execute_run p rfl, Store.apply_withFailing, hp]
    · rw [htracking]
      cases m.store.tracking with
      | true => simp
      | false => simp [Store.createsTracking]
  abandoned := by
    rw [inside_eq]
    exact ⟨_, rfl, rfl⟩

/-- A script that creates the tracking table and then a table that is there. -/
def doomed : List Prepared :=
  [("CREATE TABLE IF NOT EXISTS _migrations ();", []), ("CREATE TABLE a ();", []), ("CREATE TABLE a ();", [])]

/-- A commit that fails may leave a tracking table that was not there. -/
theorem not_tracking_restored : ∃ e after, pool.commit (inside doomed empty) = (.error e, after) ∧
    empty.store.tracking = false ∧ after.store.tracking = true := by
  have htracking : Store.Effect.ofSql "CREATE TABLE IF NOT EXISTS _migrations ();" = .createTracking := by
    decide +kernel
  have htable : Store.Effect.ofSql "CREATE TABLE a ();" = .createTable "a" := by decide +kernel
  have haccepted : empty.accepted doomed = doomed := by simp [accepted, doomed, empty, Store.empty]
  have hcommit : Store.commit doomed empty.store =
      (.error (.database "relation \"a\" already exists"), { Store.empty with tracking := true }) := by
    simp [Store.commit, doomed, Store.applyAll_cons, Store.apply_run, htracking, htable, empty, Store.empty]
  rw [inside_eq, commit_run, haccepted, hcommit]
  exact ⟨_, _, rfl, rfl, rfl⟩

end Memory

end SchemaJournal.Database
