import SchemaJournal.Proofs.Transaction.Phase

/-!
# The discipline of transactions

The operations of a runner follow the phases whatever the database answers (`follows_up`, `follows_down`,
`follows_clear`): each of them is a sequence of calls outside of transactions and of whole transactions, up to the
first call that fails. Hence all three are disciplined (`operations_disciplined`).
-/

namespace SchemaJournal

open Database World

/-! ## The operations follow the phases -/

/-- The statements of a transaction that applies a migration. -/
def Journal.upScript (j : Journal) (m : Migration) : List Prepared :=
  m.up.map (·, []) ++ [Tracking.insertion j.table m]

/-- The statements of a transaction that reverts a migration. -/
def Journal.downScript (j : Journal) (m : Migration) : List Prepared :=
  m.down.map (·, []) ++ [Tracking.removal j.table m.id]

/-- The statement that drops a table and what depends on it. -/
def dropSql (name : String) : String := (Ddl.Statement.dropTableCascade name).text

/-- The statements that drop the tables of a schema, once they are in order. -/
def clearScript (ordered : List Table) : List Prepared :=
  (ordered.reverse.map (·.name)).map fun name => (dropSql name, [])

theorem clearScript_eq (ordered : List Table) :
    clearScript ordered = ((ordered.reverse.map (·.name)).map dropSql).map (·, []) := by
  rw [List.map_map]
  rfl

namespace Runner

/-- The error of a migration whose transaction cannot be committed. -/
def commitError (m : Migration) (e : Error) : Error :=
  .transaction ("Failed to commit migration " ++ m.id ++ ": " ++ e.message)

/-- What applying or reverting some migrations reports of a call that failed. -/
inductive UnitReported (units : Migration → Prop) : Call → Error → Error → Prop
  | tracking (sql : String) (params : List Value) (e : Error) : UnitReported units (.execute sql params) e
      (.database ("Failed to create migrations table: " ++ e.message))
  | query (sql : String) (params : List Value) (e : Error) : UnitReported units (.fetch sql params) e e
  | begin (e : Error) : UnitReported units .begin e e
  | statement {m : Migration} (hm : units m) (sql : String) (params : List Value) (e : Error) :
      UnitReported units (.executeInside sql params) e (statementError m sql e)
  | commit {m : Migration} (hm : units m) (e : Error) : UnitReported units .commit e (commitError m e)

/-- What dropping tables reports of a call that failed. -/
inductive ClearReported : Call → Error → Error → Prop
  | begin (e : Error) : ClearReported .begin e e
  | statement (sql : String) (params : List Value) (e : Error) : ClearReported (.executeInside sql params) e e
  | commit (e : Error) : ClearReported .commit e (.transaction ("Failed to commit clear: " ++ e.message))

section Follows

variable {σ α : Type} {files : FileTree} {complete : List Prepared → Prop} {reported : Call → Error → Error → Prop}
  {units : Migration → Prop} {p q : Phase}

/-- The calls so far have led to a phase. -/
def Reaches (complete : List Prepared → Prop) (p : Phase) (t : Transcript σ) : Prop :=
  Phase.Leads complete .idle t.exchanges p

/-- The calls so far have led to a phase in which an operation may fail with an error. -/
def Fails (complete : List Prepared → Prop) (reported : Call → Error → Error → Prop) (e : Error) (t : Transcript σ) :
    Prop :=
  ∃ p, Reaches complete p t ∧ p.Allows reported (Except.error (α := Unit) e)

theorem Reaches.fails_idle {t : Transcript σ} (h : Reaches complete .idle t) (e : Error) :
    Fails complete reported e t :=
  ⟨.idle, h, trivial⟩

theorem Reaches.fails_ended {t : Transcript σ} {call : Call} {e e' : Error} (h : Reaches complete (.ended call e) t)
    (hr : reported call e e') : Fails complete reported e' t :=
  ⟨.ended call e, h, e', rfl, hr⟩

/-- A call leads on to the next phase, by its outcome. -/
theorem ensures_record {call : Call} {act : Action σ α} {failed : Error → Phase}
    (hok : Phase.Next complete p ⟨call, .ok ()⟩ q)
    (herr : ∀ e, Phase.Next complete p ⟨call, .error e⟩ (failed e)) :
    Ensures files (Reaches complete p) (onDatabase (Transcript.record call act)) (fun _ => Reaches complete q)
      fun e => Reaches complete (failed e) := by
  refine Ensures.onDatabase fun t ht => ?_
  unfold Reaches Transcript.exchanges at *
  rcases h : act t.database with ⟨e | a, d⟩
  · simp only [Transcript.record, h, List.map_append, List.map_cons, List.map_nil, Except.map]
    exact ht.snoc (herr e)
  · simp only [Transcript.record, h, List.map_append, List.map_cons, List.map_nil, Except.map]
    exact ht.snoc hok

variable (r : Runner σ)

theorem follows_ensureTracking : Ensures files (Reaches complete .idle) r.recorded.ensureTracking
    (fun _ => Reaches complete .idle) (Fails complete (UnitReported units)) := by
  refine Ensures.bind (Ensures.restate ?_) fun _ => Ensures.keep
  refine (ensures_record (.execute _ _) fun e => .executeFailed _ _ e).mono_error fun e t h => ?_
  exact h.fails_ended (.tracking _ _ e)

theorem follows_fetch (sql : String) : Ensures files (Reaches complete .idle)
    (onDatabase (r.recorded.pool.fetch sql [])) (fun _ => Reaches complete .idle)
    (Fails complete (UnitReported units)) := by
  refine (ensures_record (.fetch _ _) fun e => .fetchFailed _ _ e).mono_error fun e t h => ?_
  exact h.fails_ended (.query _ _ e)

theorem follows_applied : Ensures files (Reaches complete .idle) r.recorded.applied
    (fun _ => Reaches complete .idle) (Fails complete (UnitReported units)) :=
  Ensures.bind (r.follows_fetch _) fun _ => Ensures.ofExcept (fun _ _ _ h => h) fun e _ _ h => h.fails_idle e

theorem follows_latest : Ensures files (Reaches complete .idle) r.recorded.latest
    (fun _ => Reaches complete .idle) (Fails complete (UnitReported units)) := by
  refine Ensures.bind (r.follows_fetch _) fun rows => ?_
  cases rows with
  | nil => exact Ensures.keep
  | cons row _ =>
    refine Ensures.bind (Ensures.ofExcept (fun _ _ _ h => h) fun e _ _ h => ?_) fun _ => Ensures.keep
    exact h.fails_idle e

/-- Abandoning a transaction ends the operation, whether or not the rollback fails. -/
theorem follows_abandon {sql : String} {params : List Value} {e : Error} {E : Error → Transcript σ → Prop} :
    Ensures files (Reaches complete (.aborting sql params e)) r.recorded.abandon
      (fun _ => Reaches complete (.ended (.executeInside sql params) e)) E := by
  refine Ensures.bind (Q := fun _ => Reaches complete (.ended (.executeInside sql params) e)) (Ensures.outcome ?_) ?_
  · exact ensures_record (.rollback _ _ _ _) fun _ => .rollback _ _ _ _
  · rintro (_ | _)
    · exact Ensures.tell
    · exact Ensures.keep

/-- After a statement the script goes on, or it is abandoned if the statement failed. -/
def ReachesAfter (complete : List Prepared → Prop) (start : List Prepared) (statement : Prepared) :
    Except Error Nat → Transcript σ → Prop
  | .ok _ => Reaches complete (.inside (start ++ [statement]))
  | .error e => Reaches complete (.aborting statement.1 statement.2 e)

/-- The statements of a script are executed one after the other, up to the first one that fails. -/
theorem follows_executeAll {announce : String → Action (World (Transcript σ)) Unit} {wrap : String → Error → Error}
    (ha : ∀ sql (P : Transcript σ → Prop), Ensures files P (announce sql) (fun _ => P) (Fails complete reported))
    (hr : ∀ sql params e, reported (.executeInside sql params) e (wrap sql e)) :
    ∀ script start, Ensures files (Reaches complete (.inside start)) (r.recorded.executeAll announce wrap script)
      (fun _ => Reaches complete (.inside (start ++ script))) (Fails complete reported)
  | [], start => Ensures.pure fun _ h => by rwa [List.append_nil]
  | (sql, params) :: rest, start => by
    refine Ensures.bind (ha sql _) fun _ =>
      Ensures.bind (Q := ReachesAfter complete start (sql, params)) (Ensures.outcome ?_) ?_
    · exact ensures_record (.statement start (sql, params)) fun e => .statementFailed start sql params e
    · rintro (e | _)
      · exact Ensures.bind r.follows_abandon fun _ => Ensures.throw fun _ h => h.fails_ended (hr sql params e)
      · have := follows_executeAll ha hr rest (start ++ [(sql, params)])
        rwa [List.append_assoc] at this

theorem follows_begin (hr : ∀ e, reported .begin e e) :
    Ensures files (Reaches complete .idle) (onDatabase r.recorded.pool.begin) (fun _ => Reaches complete (.inside []))
      (Fails complete reported) :=
  (ensures_record .begin fun e => .beginFailed e).mono_error fun e _ h => h.fails_ended (hr e)

theorem follows_commit {restated : Error → Error} {script : List Prepared} (hs : complete script)
    (hr : ∀ e, reported .commit e (restated e)) :
    Ensures files (Reaches complete (.inside script)) ((onDatabase r.recorded.pool.commit).restate restated)
      (fun _ => Reaches complete .idle) (Fails complete reported) := by
  refine Ensures.restate ?_
  refine (ensures_record (.commit script hs) fun e => .commitFailed script e hs).mono_error fun e t h => ?_
  exact h.fails_ended (hr e)

theorem follows_runUnit {m : Migration} {statements : List String} {bookkeeping : Prepared} (hm : units m)
    (hs : complete (statements.map (·, []) ++ [bookkeeping])) :
    Ensures files (Reaches complete .idle) (r.recorded.runUnit m statements bookkeeping)
      (fun _ => Reaches complete .idle) (Fails complete (UnitReported units)) := by
  refine Ensures.bind (r.follows_begin .begin) fun _ => ?_
  refine Ensures.bind (r.follows_executeAll (fun _ _ => Ensures.keep) (fun _ _ e => .statement hm _ _ e) _ [])
    fun _ => ?_
  exact r.follows_commit hs fun e => .commit hm e

theorem follows_applyAll : ∀ migrations, (∀ m ∈ migrations, units m ∧ complete (r.journal.upScript m)) →
    Ensures files (Reaches complete .idle) (r.recorded.applyAll migrations) (fun _ => Reaches complete .idle)
      (Fails complete (UnitReported units))
  | [], _ => Ensures.keep
  | m :: rest, h => by
    obtain ⟨hm, hs⟩ := h m List.mem_cons_self
    have happly : Ensures files (Reaches complete .idle) (r.recorded.apply m) (fun _ => Reaches complete .idle)
        (Fails complete (UnitReported units)) := by
      refine Ensures.bind Ensures.tell fun _ => ?_
      exact Ensures.bind (r.follows_runUnit hm hs) fun _ => Ensures.tell
    exact Ensures.bind happly fun _ => follows_applyAll rest fun m' hm' => h m' (List.mem_cons_of_mem _ hm')

/-- Applying the pending migrations follows the phases; its transactions are those of migrations in the journal. -/
theorem follows_up (hunits : ∀ migrations, r.journal.list files = .ok migrations → ∀ m ∈ migrations, units m)
    (hcomplete : ∀ m, units m → complete (r.journal.upScript m)) :
    Ensures files (Reaches complete .idle) r.recorded.up (fun _ => Reaches complete .idle)
      (Fails complete (UnitReported units)) := by
  refine Ensures.bind Ensures.now fun _ => ?_
  refine Ensures.bind r.follows_ensureTracking fun _ => ?_
  refine Ensures.bind (Q := fun migrations t => r.journal.list files = .ok migrations ∧ Reaches complete .idle t)
    (Ensures.readFiles (fun _ hl _ h => ⟨hl, h⟩) fun e _ _ h => h.fails_idle e) fun migrations => ?_
  refine Ensures.assume fun hl => ?_
  refine Ensures.bind r.follows_applied fun records => ?_
  have htodo : ∀ m ∈ pending records migrations, units m ∧ complete (r.journal.upScript m) := by
    intro m hm
    have hunit : units m := hunits migrations hl m (List.mem_filter.mp hm).1
    exact ⟨hunit, hcomplete m hunit⟩
  refine Ensures.bind (r.follows_applyAll _ htodo) fun _ => ?_
  exact Ensures.bind Ensures.now fun _ => Ensures.keep

/-- Reverting the latest migration follows the phases; its transaction is the one of a migration in the journal. -/
theorem follows_down (hunits : ∀ id m, r.journal.find files id = .ok (some m) → units m)
    (hcomplete : ∀ m, units m → complete (r.journal.downScript m)) :
    Ensures files (Reaches complete .idle) r.recorded.down (fun _ => Reaches complete .idle)
      (Fails complete (UnitReported units)) := by
  refine Ensures.bind r.follows_ensureTracking fun _ => ?_
  refine Ensures.bind r.follows_latest fun latest => ?_
  cases latest with
  | none => exact Ensures.bind Ensures.tell fun _ => Ensures.keep
  | some record =>
    refine Ensures.bind (Q := fun found t => r.journal.find files record.id = .ok found ∧ Reaches complete .idle t)
      (Ensures.readFiles (fun _ hl _ h => ⟨hl, h⟩) fun e _ _ h => h.fails_idle e) fun found => ?_
    cases found with
    | none => exact Ensures.throw fun _ h => h.2.fails_idle _
    | some m =>
      refine Ensures.assume fun hl => ?_
      have hm : units m := hunits _ m hl
      refine Ensures.bind Ensures.tell fun _ => ?_
      refine Ensures.bind (r.follows_runUnit hm (hcomplete m hm)) fun _ => ?_
      exact Ensures.bind Ensures.tell fun _ => Ensures.keep

/-- Dropping the tables of a schema follows the phases in one transaction. -/
theorem follows_clear (schema : Schema)
    (hcomplete : ∀ ordered, order schema.tables = .ok ordered → complete (clearScript ordered)) :
    Ensures files (Reaches complete .idle) (r.recorded.clear schema) (fun _ => Reaches complete .idle)
      (Fails complete ClearReported) := by
  refine Ensures.bind (Q := fun ordered t => order schema.tables = .ok ordered ∧ Reaches complete .idle t)
    (Ensures.ofExcept (fun _ ho _ h => ⟨ho, h⟩) fun e _ _ h => h.fails_idle e) fun ordered => ?_
  refine Ensures.assume fun ho => ?_
  refine Ensures.bind (r.follows_begin .begin) fun _ => ?_
  refine Ensures.bind (r.follows_executeAll (fun _ _ => Ensures.tell) .statement (clearScript ordered) []) fun _ => ?_
  exact Ensures.bind (r.follows_commit (hcomplete ordered ho) .commit) fun _ => Ensures.keep

end Follows

/-! ## All operations -/

variable {σ α : Type}

/-- What follows the phases with a transcript is disciplined without it. -/
theorem disciplined_of_follows {op : Runner (Transcript σ) → Action (World (Transcript σ)) α}
    {plain : Action (World σ) α} {complete : List Prepared → Prop} {reported : Call → Error → Error → Prop}
    {r : Runner σ} {w : World σ} (hm : Mirrors (op r.recorded) plain)
    (h : Ensures w.files (Reaches complete .idle) (op r.recorded) (fun _ => Reaches complete .idle)
      (Fails complete reported)) :
    Disciplined complete reported (exchanges op r w) (plain w).1 := by
  have hres : (plain w).1 = (op r.recorded w.recorded).1 := congrArg Prod.fst (hm w.recorded)
  obtain ⟨-, hend⟩ := h w.recorded rfl (.nil _)
  rw [hres]
  cases ho : (op r.recorded w.recorded).1 with
  | ok a =>
    rw [ho] at hend
    exact .of_leads hend trivial
  | error e =>
    rw [ho] at hend
    obtain ⟨p, hp, hallows⟩ := hend
    refine .of_leads hp ?_
    cases p with
    | idle => trivial
    | ended call e' =>
      obtain ⟨_, he, hrep⟩ := hallows
      cases he
      exact ⟨e, rfl, hrep⟩
    | inside | aborting => exact hallows.elim

end Runner

/-- A migration that the journal lists. -/
def Journal.Lists (j : Journal) (files : FileTree) (m : Migration) : Prop :=
  ∃ migrations, j.list files = .ok migrations ∧ m ∈ migrations

/-- A migration that the journal finds under an id. -/
def Journal.Finds (j : Journal) (files : FileTree) (m : Migration) : Prop := ∃ id, j.find files id = .ok (some m)

/-- **The discipline of transactions.** Whatever a database answers, applying the pending migrations, reverting the
latest one and dropping the tables of a schema leave no transaction open, commit only whole scripts, call nothing after
a failure but the rollback of a statement that failed, and report the first failure. -/
theorem operations_disciplined (r : Runner σ) (schema : Schema) (w : World σ) :
    Disciplined (fun script => ∃ m, r.journal.Lists w.files m ∧ script = r.journal.upScript m)
        (Runner.UnitReported (r.journal.Lists w.files)) (r.exchanges Runner.up w) (r.up w).1 ∧
      Disciplined (fun script => ∃ m, r.journal.Finds w.files m ∧ script = r.journal.downScript m)
        (Runner.UnitReported (r.journal.Finds w.files)) (r.exchanges Runner.down w) (r.down w).1 ∧
      Disciplined (fun script => ∃ ordered, order schema.tables = .ok ordered ∧ script = clearScript ordered)
        Runner.ClearReported (r.exchanges (·.clear schema) w) (r.clear schema w).1 := by
  refine ⟨Runner.disciplined_of_follows r.mirrors_up ?_, Runner.disciplined_of_follows r.mirrors_down ?_,
    Runner.disciplined_of_follows (r.mirrors_clear schema) ?_⟩
  · exact r.follows_up (fun migrations hl m hm => ⟨migrations, hl, hm⟩) fun m hm => ⟨m, hm, rfl⟩
  · exact r.follows_down (fun id m hf => ⟨id, hf⟩) fun m hm => ⟨m, hm, rfl⟩
  · exact r.follows_clear schema fun ordered ho => ⟨ordered, ho, rfl⟩

end SchemaJournal
