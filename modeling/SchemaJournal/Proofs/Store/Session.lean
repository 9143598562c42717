import SchemaJournal.Proofs.Store.Effect
import SchemaJournal.Proofs.Store.Query

/-!
# Sessions of a runner with a store

What a runner does to a store, call by call. Between two transactions the store rests at some contents, with the
scripts committed so far (`Rests`); inside of a transaction it gathers a script (`Gathers`). Both keep a law that ties
the contents to the committed scripts, at every point of the session.

- A call other than a commit leaves the store at rest (`rests_ensureTracking`, `rests_fetch`, `gathers_begin`,
  `gathers_executeAll`);
- a commit is where the contents change (`rests_commit`);
- hence a unit is committed as a whole, or it fails and leaves the contents (`rests_runUnit`), and migrations are
  applied in order, up to one that fails (`rests_applyAll`, `rests_up`).
-/

namespace SchemaJournal

open Database Database.Store World

/-! ## Calls of a store -/

namespace Database.Memory

variable (m : Memory) (sql : String) (params : List Value)

theorem check_run : check sql m = (m.store.check sql, m) := rfl

/-- Creating the tracking table is refused, or the table is there. -/
theorem execute_creation_cases (table : String) :
    (Refuses m.store.failing (Tracking.createSql table) ∧
      pool.execute (Tracking.createSql table) [] m = (.error (refusal (Tracking.createSql table)), m)) ∨
    (¬Refuses m.store.failing (Tracking.createSql table) ∧
      pool.execute (Tracking.createSql table) [] m =
        (.ok 0, { m with store := { m.store with tracking := true } })) := by
  rcases check_cases m.store (Tracking.createSql table) with ⟨hr, hc⟩ | ⟨hr, hc⟩
  · exact .inl ⟨hr, Attempt.bind_error (by rw [check_run, hc]) _⟩
  · have ha : Store.apply (Tracking.createSql table) [] m.store = (.ok (), { m.store with tracking := true }) := by
      rw [apply_run, ofSql_creation]
    have hs : onStore (Store.apply (Tracking.createSql table) []) m =
        (.ok (), { m with store := { m.store with tracking := true } }) := by
      unfold onStore Attempt.within
      rw [ha]
    exact .inr ⟨hr, (Attempt.bind_ok (by rw [check_run, hc]) _).trans (Attempt.bind_ok hs _)⟩

/-- A statement inside a transaction is refused, or it waits for the commit. -/
theorem executeInside_cases :
    (Refuses m.store.failing sql ∧ pool.executeInside sql params m = (.error (refusal sql), m)) ∨
    (¬Refuses m.store.failing sql ∧
      pool.executeInside sql params m = (.ok 0, { m with pending := m.pending ++ [(sql, params)] })) := by
  rcases check_cases m.store sql with ⟨hr, hc⟩ | ⟨hr, hc⟩
  · exact .inl ⟨hr, Attempt.bind_error (by rw [check_run, hc]) _⟩
  · exact .inr ⟨hr, Attempt.bind_ok (by rw [check_run, hc]) _⟩

theorem commit_run : pool.commit m =
    ((Store.commit m.pending m.store).1, { m with store := (Store.commit m.pending m.store).2 }) := rfl

end Database.Memory

/-! ## Stores at rest -/

variable {α : Type} {files : FileTree} {law : List (List Prepared) → Contents → Prop} {failing : List String}
  {k k' : Contents} {done done' : List (List Prepared)} {script start : List Prepared} {t : Transcript Memory}

/-- A call that is not a commit enters no transaction. -/
theorem committed_snoc {x : Exchange} (h : x.call ≠ .commit) (exchanges : List Exchange) :
    committed (exchanges ++ [x]) = committed exchanges := by
  unfold committed
  rw [ledger_snoc]
  unfold Ledger.add
  split
  · rfl
  · rfl
  · exact absurd rfl h
  · rfl

theorem committed_failed (e : Error) (exchanges : List Exchange) :
    committed (exchanges ++ [⟨.commit, .error e⟩]) = committed exchanges := by
  unfold committed
  rw [ledger_snoc]
  rfl

/-- The store has these contents and refuses these patterns, the scripts that are done are committed, and the law holds
now and held after every call. -/
structure Rests (law : List (List Prepared) → Contents → Prop) (failing : List String) (k : Contents)
    (done : List (List Prepared)) (t : Transcript Memory) : Prop where
  contents : t.database.store.contents = k
  failing : t.database.store.failing = failing
  transactions : committed t.exchanges = done
  lawful : law done k
  always : ∀ before step after, t.steps = before ++ step :: after →
    law (committed ((before ++ [step]).map (·.exchange))) step.database.store.contents

/-- One more call, after which the law holds. -/
theorem Rests.snoc (h : Rests law failing k done t) {x : Exchange} {m : Memory} (hk : m.store.contents = k')
    (hf : m.store.failing = t.database.store.failing) (hd : committed (t.exchanges ++ [x]) = done')
    (hl : law done' k') : Rests law failing k' done' ⟨m, t.steps ++ [⟨x, m⟩]⟩ where
  contents := hk
  failing := hf.trans h.failing
  transactions := by simpa [Transcript.exchanges] using hd
  lawful := hl
  always before step after hs := by
    rcases List.eq_nil_or_concat after with rfl | ⟨after, last, rfl⟩
    · obtain ⟨rfl, hstep⟩ := List.append_inj' hs rfl
      cases hstep
      have hd' : committed ((t.steps ++ [(⟨x, m⟩ : Step Memory)]).map (·.exchange)) = done' := by
        simpa [Transcript.exchanges] using hd
      rw [hd', hk]
      exact hl
    · have hs' : t.steps ++ [⟨x, m⟩] = (before ++ step :: after) ++ [last] := by simpa using hs
      exact h.always before step after (List.append_inj_left' hs' rfl)

theorem Rests.stay (h : Rests law failing k done t) {x : Exchange} {m : Memory}
    (hm : m.store.contents = t.database.store.contents) (hf : m.store.failing = t.database.store.failing)
    (hx : x.call ≠ .commit) : Rests law failing k done ⟨m, t.steps ++ [⟨x, m⟩]⟩ :=
  h.snoc (hm.trans h.contents) hf ((committed_snoc hx _).trans h.transactions) h.lawful

/-- Before the first call the store rests at its contents. -/
theorem rests_blank (m : Memory) (h : law [] m.store.contents) :
    Rests law m.store.failing m.store.contents [] ⟨m, []⟩ := ⟨rfl, rfl, rfl, h, by simp⟩

/-- The store rests, and the statements of a script wait for a commit. -/
structure Gathers (law : List (List Prepared) → Contents → Prop) (failing : List String) (k : Contents)
    (done : List (List Prepared)) (script : List Prepared) (t : Transcript Memory) : Prop
    extends Rests law failing k done t where
  waiting : t.database.pending = script
  opened : (ledger t.exchanges).opened = script

/-- A runner for a store, with its calls written down. -/
abbrev Journal.session (j : Journal) : Runner (Transcript Memory) := (⟨j, Memory.pool⟩ : Runner Memory).recorded

/-! ## Calls outside of a transaction -/

theorem ensures_recorded {call : Call} {act : Action Memory α} {P : Transcript Memory → Prop}
    {Q : α → Transcript Memory → Prop} {E : Error → Transcript Memory → Prop}
    (hok : ∀ t a m, P t → act t.database = (.ok a, m) → Q a ⟨m, t.steps ++ [⟨⟨call, .ok ()⟩, m⟩]⟩)
    (herr : ∀ t e m, P t → act t.database = (.error e, m) → E e ⟨m, t.steps ++ [⟨⟨call, .error e⟩, m⟩]⟩) :
    Ensures files P (onDatabase (Transcript.record call act)) Q E := by
  refine Ensures.onDatabase fun t ht => ?_
  unfold Transcript.record
  rcases ha : act t.database with ⟨_ | _, m⟩
  · exact herr t _ m ht ha
  · exact hok t _ m ht ha

variable (j : Journal)

/-- Creating the tracking table is refused, or the table is there. -/
theorem rests_ensureTracking : Ensures files (Rests law failing k done) j.session.ensureTracking
    (fun _ t => ¬Refuses failing (Tracking.createSql j.table) ∧ Rests law failing k done t ∧
      t.database.store.tracking = true)
    fun _ t => Refuses failing (Tracking.createSql j.table) ∧ Rests law failing k done t := by
  refine Ensures.bind (Ensures.restate (ensures_recorded ?_ ?_)) fun _ => Ensures.keep
  · intro t a m ht h
    rcases Memory.execute_creation_cases t.database j.table with ⟨-, hrun⟩ | ⟨hr, hrun⟩
    · cases hrun.symm.trans h
    · cases hrun.symm.trans h
      exact ⟨ht.failing ▸ hr, ht.stay rfl rfl nofun, rfl⟩
  · intro t e m ht h
    rcases Memory.execute_creation_cases t.database j.table with ⟨hr, hrun⟩ | ⟨-, hrun⟩
    · cases hrun.symm.trans h
      exact ⟨ht.failing ▸ hr, ht.stay rfl rfl nofun⟩
    · cases hrun.symm.trans h

/-- A query is refused, or it is answered from the contents. -/
theorem rests_fetch (sql : String) :
    Ensures files (fun t => Rests law failing k done t ∧ t.database.store.tracking = true)
      (onDatabase (j.session.pool.fetch sql []))
      (fun rows t => (¬Refuses failing sql ∧ ∃ s : Store, s.records = k.records ∧
        rows = (s.select sql).map Record.toRow) ∧ Rests law failing k done t)
      fun _ t => Refuses failing sql ∧ Rests law failing k done t := by
  refine ensures_recorded ?_ ?_
  · rintro t rows m ⟨ht, htrack⟩ h
    obtain ⟨hfetch, rfl⟩ := Prod.mk.inj h
    rcases fetch_cases sql htrack with ⟨-, hf⟩ | ⟨hr, hf⟩
    · cases hf.symm.trans hfetch
    · cases hf.symm.trans hfetch
      have hrecords : t.database.store.records = k.records := congrArg Contents.records ht.contents
      exact ⟨⟨ht.failing ▸ hr, t.database.store, hrecords, rfl⟩, ht.stay rfl rfl nofun⟩
  · rintro t e m ⟨ht, htrack⟩ h
    obtain ⟨hfetch, rfl⟩ := Prod.mk.inj h
    rcases fetch_cases sql htrack with ⟨hr, hf⟩ | ⟨-, hf⟩
    · exact ⟨ht.failing ▸ hr, ht.stay rfl rfl nofun⟩
    · cases hf.symm.trans hfetch

theorem rests_applied : Ensures files (fun t => Rests law failing k done t ∧ t.database.store.tracking = true)
    j.session.applied
    (fun records t => (¬Refuses failing (Tracking.appliedSql j.table) ∧ ∃ s : Store, s.records = k.records ∧
      records = s.select (Tracking.appliedSql j.table)) ∧ Rests law failing k done t)
    fun _ t => Refuses failing (Tracking.appliedSql j.table) ∧ Rests law failing k done t := by
  refine Ensures.bind (rests_fetch j (Tracking.appliedSql j.table)) fun rows =>
    Ensures.assume fun ⟨hr, s, hs, hrows⟩ => ?_
  rw [hrows, mapM_toRow]
  exact Ensures.ofExcept (fun _ ha _ h => ⟨⟨hr, s, hs, (Except.ok.inj ha).symm⟩, h⟩) nofun

theorem rests_latest : Ensures files (fun t => Rests law failing k done t ∧ t.database.store.tracking = true)
    j.session.latest
    (fun latest t => (¬Refuses failing (Tracking.latestSql j.table) ∧ ∃ s : Store, s.records = k.records ∧
      latest = (s.select (Tracking.latestSql j.table)).head?) ∧ Rests law failing k done t)
    fun _ t => Refuses failing (Tracking.latestSql j.table) ∧ Rests law failing k done t := by
  refine Ensures.bind (rests_fetch j (Tracking.latestSql j.table)) fun rows =>
    Ensures.assume fun ⟨hr, s, hs, hrows⟩ => ?_
  rw [hrows]
  cases hsel : s.select (Tracking.latestSql j.table) with
  | nil => exact Ensures.pure fun _ h => ⟨⟨hr, s, hs, by rw [hsel]; rfl⟩, h⟩
  | cons r rest => exact Ensures.pure fun _ h => ⟨⟨hr, s, hs, by rw [hsel]; rfl⟩, h⟩

/-! ## Transactions -/

/-- A transaction starts with nothing to commit. -/
theorem gathers_begin {E : Error → Transcript Memory → Prop} : Ensures files (Rests law failing k done)
    (onDatabase j.session.pool.begin) (fun _ => Gathers law failing k done []) E := by
  refine ensures_recorded ?_ ?_
  · intro t a m ht h
    cases h
    exact ⟨ht.stay rfl rfl nofun, rfl, by simp [Transcript.exchanges, ledger_snoc, Ledger.add]⟩
  · intro t e m ht h
    cases h

/-- A statement is refused, or it waits with the others. -/
theorem gathers_executeInside (sql : String) (params : List Value) : Ensures files
    (Gathers law failing k done start) (onDatabase (j.session.pool.executeInside sql params))
    (fun _ t => ¬Refuses failing sql ∧ Gathers law failing k done (start ++ [(sql, params)]) t)
    fun e t => (Refuses failing sql ∧ e = refusal sql) ∧ Rests law failing k done t := by
  refine ensures_recorded ?_ ?_
  · intro t a m ht h
    rcases Memory.executeInside_cases t.database sql params with ⟨-, hrun⟩ | ⟨hr, hrun⟩
    · cases hrun.symm.trans h
    · cases hrun.symm.trans h
      refine ⟨ht.failing ▸ hr, ht.stay rfl rfl nofun, congrArg (· ++ [(sql, params)]) ht.waiting, ?_⟩
      have hl : ledger (t.exchanges ++ [⟨.executeInside sql params, .ok ()⟩]) =
          (ledger t.exchanges).add ⟨.executeInside sql params, .ok ()⟩ := ledger_snoc _ _
      simp only [Transcript.exchanges, List.map_append, List.map_cons, List.map_nil] at hl ⊢
      rw [hl]
      exact congrArg (· ++ [(sql, params)]) ht.opened
  · intro t e m ht h
    rcases Memory.executeInside_cases t.database sql params with ⟨hr, hrun⟩ | ⟨-, hrun⟩
    · cases hrun.symm.trans h
      exact ⟨⟨ht.failing ▸ hr, rfl⟩, ht.stay rfl rfl nofun⟩
    · cases hrun.symm.trans h

theorem rests_abandon {E : Error → Transcript Memory → Prop} : Ensures files (Rests law failing k done)
    j.session.abandon (fun _ => Rests law failing k done) E := by
  refine Ensures.bind (Q := fun _ => Rests law failing k done) (Ensures.outcome (ensures_recorded ?_ ?_)) ?_
  · intro t a m ht h
    cases h
    exact ht.stay rfl rfl nofun
  · intro t e m ht h
    cases h
  · rintro (_ | _)
    · exact Ensures.tell
    · exact Ensures.keep

/-- A script is gathered if none of its statements is refused. -/
theorem gathers_executeAll {announce : String → Action (World (Transcript Memory)) Unit}
    (wrap : String → Error → Error)
    (ha : ∀ sql (P : Transcript Memory → Prop) (E : Error → Transcript Memory → Prop),
      Ensures files P (announce sql) (fun _ => P) E) :
    ∀ script start, Ensures files (Gathers law failing k done start) (j.session.executeAll announce wrap script)
      (fun _ t => (∀ p ∈ script, ¬Refuses failing p.1) ∧ Gathers law failing k done (start ++ script) t)
      fun e t => (∃ p ∈ script, Refuses failing p.1 ∧ e = wrap p.1 (refusal p.1)) ∧ Rests law failing k done t
  | [], start => Ensures.pure fun _ h => ⟨nofun, by rwa [List.append_nil]⟩
  | (sql, params) :: rest, start => by
    let next : Except Error Nat → Transcript Memory → Prop
      | .ok _, t => ¬Refuses failing sql ∧ Gathers law failing k done (start ++ [(sql, params)]) t
      | .error e, t => (Refuses failing sql ∧ e = refusal sql) ∧ Rests law failing k done t
    refine Ensures.bind (ha sql _ _) fun _ => ?_
    refine Ensures.bind (Q := next) (Ensures.outcome (gathers_executeInside j sql params)) ?_
    rintro (e | _)
    · refine Ensures.assume fun ⟨hr, he⟩ => ?_
      refine Ensures.bind (rests_abandon j) fun _ => Ensures.throw fun t ht => ?_
      exact ⟨⟨(sql, params), List.mem_cons_self, hr, by rw [he]⟩, ht⟩
    · refine Ensures.assume fun hsql => ?_
      have hrest := gathers_executeAll wrap ha rest (start ++ [(sql, params)])
      rw [List.append_assoc] at hrest
      refine hrest.mono ?_ ?_
      · rintro _ t ⟨haccepted, ht⟩
        exact ⟨List.forall_mem_cons.mpr ⟨hsql, haccepted⟩, ht⟩
      · rintro e t ⟨⟨p, hp, hpe⟩, ht⟩
        exact ⟨⟨p, List.mem_cons_of_mem _ hp, hpe⟩, ht⟩

/-- A commit takes effect as a whole, or it fails and leaves the contents. -/
theorem rests_commit (restated : Error → Error)
    (hl : ∀ k', law done k → Takes script k k' → law (done ++ [script]) k') :
    Ensures files (Gathers law failing k done script) ((onDatabase j.session.pool.commit).restate restated)
      (fun _ t => ∃ k', Takes script k k' ∧ Rests law failing k' (done ++ [script]) t)
      fun e t => (∃ e', Fails script k e' ∧ e = restated e') ∧ Rests law failing k done t := by
  have hrun : ∀ t, Gathers law failing k done script t → ∀ s', Store.commit script t.database.store = s' →
      Memory.pool.commit t.database = (s'.1, { t.database with store := s'.2 }) := by
    intro t ht s' hs
    rw [← ht.waiting] at hs
    rw [Memory.commit_run, hs]
  refine Ensures.restate (ensures_recorded ?_ ?_)
  · intro t a m ht h
    rcases commit_cases script t.database.store with ⟨s', hc, htakes, hf⟩ | ⟨e, s', hc, -⟩
    · cases (hrun t ht _ hc).symm.trans h
      rw [ht.contents] at htakes
      refine ⟨s'.contents, htakes, ht.snoc rfl hf ?_ (hl _ ht.lawful htakes)⟩
      unfold committed
      rw [ledger_snoc]
      show (ledger t.exchanges).closed ++ [(ledger t.exchanges).opened] = _
      rw [ht.opened]
      exact congrArg (· ++ [script]) ht.transactions
    · cases (hrun t ht _ hc).symm.trans h
  · intro t e m ht h
    rcases commit_cases script t.database.store with ⟨s', hc, -⟩ | ⟨e, s', hc, hfails, hk, hf⟩
    · cases (hrun t ht _ hc).symm.trans h
    · cases (hrun t ht _ hc).symm.trans h
      rw [ht.contents] at hfails
      refine ⟨⟨e, hfails, rfl⟩, ht.snoc (hk.trans ht.contents) hf ?_ ht.lawful⟩
      exact (committed_failed e t.exchanges).trans ht.transactions

/-- Why a unit of a migration fails: a statement is refused, or the script cannot take effect. -/
inductive UnitFails (failing : List String) (m : Migration) (script : List Prepared) (k : Contents) : Error → Prop
  | refused {p : Prepared} (hp : p ∈ script) (hr : Refuses failing p.1) :
      UnitFails failing m script k (Runner.statementError m p.1 (refusal p.1))
  | uncommitted {e : Error} (h : Fails script k e) : UnitFails failing m script k (Runner.commitError m e)

/-- A unit takes effect as a whole, or it fails and leaves the contents. -/
theorem rests_runUnit (m : Migration) (statements : List String) (bookkeeping : Prepared)
    (hs : script = statements.map (·, []) ++ [bookkeeping])
    (hl : ∀ k', law done k → Takes script k k' → law (done ++ [script]) k') :
    Ensures files (Rests law failing k done) (j.session.runUnit m statements bookkeeping)
      (fun _ t => ∃ k', Takes script k k' ∧ Rests law failing k' (done ++ [script]) t)
      fun e t => UnitFails failing m script k e ∧ Rests law failing k done t := by
  subst hs
  refine Ensures.bind (gathers_begin j) fun _ => ?_
  refine Ensures.bind ((gathers_executeAll j (Runner.statementError m) (fun _ _ _ => Ensures.keep) _ []).mono_error ?_)
    fun _ => Ensures.assume fun _ => (rests_commit j (Runner.commitError m) hl).mono_error ?_
  · rintro e t ⟨⟨p, hp, hr, rfl⟩, ht⟩
    exact ⟨.refused hp hr, ht⟩
  · rintro e t ⟨⟨cause, hfails, rfl⟩, ht⟩
    exact ⟨.uncommitted hfails, ht⟩

/-- Applying a migration commits its script, or it fails and leaves the contents. -/
theorem rests_apply (m : Migration)
    (hl : ∀ k', law done k → Takes (j.upScript m) k k' → law (done ++ [j.upScript m]) k') :
    Ensures files (Rests law failing k done) (j.session.apply m)
      (fun _ t => ∃ k', Takes (j.upScript m) k k' ∧ Rests law failing k' (done ++ [j.upScript m]) t)
      fun e t => UnitFails failing m (j.upScript m) k e ∧ Rests law failing k done t := by
  refine Ensures.bind Ensures.tell fun _ => ?_
  exact Ensures.bind (rests_runUnit j m m.up _ rfl hl) fun _ => Ensures.tell

/-- Migrations are applied in order, up to one that fails. -/
theorem rests_applyAll (migrations : List Migration) (k : Contents) (done : List (List Prepared))
    (hl : ∀ m ∈ migrations, ∀ done k k', law done k → Takes (j.upScript m) k k' → law (done ++ [j.upScript m]) k') :
    Ensures files (Rests law failing k done) (j.session.applyAll migrations)
      (fun _ t => ∃ k', Replays (migrations.map j.upScript) k k' ∧
        Rests law failing k' (done ++ migrations.map j.upScript) t)
      fun e t => ∃ before m after k', migrations = before ++ m :: after ∧ Replays (before.map j.upScript) k k' ∧
        UnitFails failing m (j.upScript m) k' e ∧ Rests law failing k' (done ++ before.map j.upScript) t := by
  induction migrations generalizing k done with
  | nil => exact Ensures.pure fun t ht => ⟨k, .nil k, by simpa using ht⟩
  | cons m rest ih =>
    have hm : ∀ k', law done k → Takes (j.upScript m) k k' → law (done ++ [j.upScript m]) k' :=
      fun k' => hl m List.mem_cons_self done k k'
    refine Ensures.bind ((rests_apply j m hm).mono_error ?_) fun _ => ?_
    · rintro e t ⟨hfails, ht⟩
      exact ⟨[], m, rest, k, rfl, .nil k, hfails, by simpa using ht⟩
    -- The rest starts from the contents that the first migration leaves.
    refine Ensures.choose fun k' => Ensures.assume fun htakes => ?_
    refine (ih k' (done ++ [j.upScript m]) fun m' hm' => hl m' (List.mem_cons_of_mem _ hm')).mono ?_ ?_
    · rintro _ t ⟨k'', hreplay, ht⟩
      exact ⟨k'', .cons htakes hreplay, by simpa using ht⟩
    · rintro e t ⟨before, m', after, k'', rfl, hreplay, hfails, ht⟩
      exact ⟨m :: before, m', after, k'', rfl, .cons htakes hreplay, hfails, by simpa using ht⟩

/-- Applying what is pending keeps a law that every migration of the journal keeps. -/
theorem rests_up (hl : ∀ migrations, j.list files = .ok migrations → ∀ m ∈ migrations, ∀ done k k', law done k →
      Takes (j.upScript m) k k' → law (done ++ [j.upScript m]) k') :
    Ensures files (Rests law failing k done) j.session.up (fun _ t => ∃ k' done', Rests law failing k' done' t)
      fun _ t => ∃ k' done', Rests law failing k' done' t := by
  refine Ensures.bind Ensures.now fun _ => ?_
  refine Ensures.bind ((rests_ensureTracking j).mono_error fun _ _ h => ⟨k, done, h.2⟩) fun _ => ?_
  refine Ensures.assume fun _ => ?_
  refine Ensures.bind (Q := fun migrations t => j.list files = .ok migrations ∧ Rests law failing k done t ∧
    t.database.store.tracking = true)
    (Ensures.readFiles (fun _ hlist _ h => ⟨hlist, h⟩) fun _ _ _ h => ⟨k, done, h.1⟩) fun migrations => ?_
  refine Ensures.assume fun hlist => ?_
  refine Ensures.bind ((rests_applied j).mono_error fun _ _ h => ⟨k, done, h.2⟩) fun records => ?_
  refine Ensures.assume fun _ => ?_
  have hpending : ∀ m ∈ Runner.pending records migrations, ∀ done k k', law done k → Takes (j.upScript m) k k' →
      law (done ++ [j.upScript m]) k' := fun m hm => hl migrations hlist m (List.mem_filter.mp hm).1
  refine Ensures.bind (Q := fun _ t => ∃ k' done', Rests law failing k' done' t)
    ((rests_applyAll j _ k done hpending).mono ?_ ?_) fun _ => ?_
  · rintro _ t ⟨k', -, ht⟩
    exact ⟨k', _, ht⟩
  · rintro e t ⟨_, _, _, k', -, -, -, ht⟩
    exact ⟨k', _, ht⟩
  · exact Ensures.bind Ensures.now fun _ => Ensures.keep

/-- Why dropping the tables of a schema fails: there is no order of them, a statement is refused, or the script cannot
take effect. -/
inductive ClearFails (failing : List String) (schema : Schema) (k : Contents) : Error → Prop
  | unordered {e : Error} (h : order schema.tables = .error e) : ClearFails failing schema k e
  | refused {ordered : List Table} {p : Prepared} (ho : order schema.tables = .ok ordered)
      (hp : p ∈ clearScript ordered) (hr : Refuses failing p.1) : ClearFails failing schema k (refusal p.1)
  | uncommitted {ordered : List Table} {e : Error} (ho : order schema.tables = .ok ordered)
      (h : Fails (clearScript ordered) k e) :
      ClearFails failing schema k (.transaction ("Failed to commit clear: " ++ e.message))

/-- Dropping the tables of a schema takes effect as a whole, or it fails and leaves the contents. -/
theorem rests_clear (schema : Schema)
    (hl : ∀ ordered k', order schema.tables = .ok ordered → law done k → Takes (clearScript ordered) k k' →
      law (done ++ [clearScript ordered]) k') :
    Ensures files (Rests law failing k done) (j.session.clear schema)
      (fun names t => ∃ ordered, (order schema.tables = .ok ordered ∧ names = ordered.reverse.map (·.name) ∧
        ∀ p ∈ clearScript ordered, ¬Refuses failing p.1) ∧
        ∃ k', Takes (clearScript ordered) k k' ∧ Rests law failing k' (done ++ [clearScript ordered]) t)
      fun e t => ClearFails failing schema k e ∧ Rests law failing k done t := by
  refine Ensures.bind (Q := fun ordered t => order schema.tables = .ok ordered ∧ Rests law failing k done t)
    (Ensures.ofExcept (fun _ ho _ h => ⟨ho, h⟩) fun _ he _ h => ⟨.unordered he, h⟩) fun ordered => ?_
  refine Ensures.assume fun ho => ?_
  refine Ensures.bind (gathers_begin j) fun _ => ?_
  refine Ensures.bind
    ((gathers_executeAll j (fun _ e => e) (fun _ _ _ => Ensures.tell) (clearScript ordered) []).mono_error ?_)
    fun _ => ?_
  · rintro e t ⟨⟨p, hp, hr, rfl⟩, ht⟩
    exact ⟨.refused ho hp hr, ht⟩
  refine Ensures.assume fun haccepted => ?_
  refine Ensures.bind ((rests_commit j _ fun k' => hl ordered k' ho).mono_error ?_) fun _ => ?_
  · rintro e t ⟨⟨cause, hfails, rfl⟩, ht⟩
    exact ⟨.uncommitted ho hfails, ht⟩
  · exact Ensures.pure fun t ht => ⟨ordered, ⟨ho, rfl, haccepted⟩, ht⟩

end SchemaJournal
