import SchemaJournal.Proofs.Store.Session

/-!
# Applying a prefix

Applying the pending migrations of a journal to a store commits the first ones of them, each in a transaction of its
own, and nothing of the others (`ensures_up`). In terms of the store: its records are extended by those
of a prefix of what is pending, and its tables, the statements that it lists and its commits are those of replaying the
prefix (`up_appliesPrefix`).
-/

namespace SchemaJournal

open Database Database.Store World

/-! ## Before the first transaction -/

section Unopened

variable {σ α : Type} {files : FileTree} {before : List Exchange}

/-- No transaction has been started. -/
def Unopened (exchanges : List Exchange) : Prop := ∀ x ∈ exchanges, x.call ≠ .begin

/-- A call is written down after the calls before it. -/
theorem exchanges_record (call : Call) (act : Action σ α) : Ensures files (fun t => t.exchanges = before)
    (onDatabase (Transcript.record call act)) (fun _ t => t.exchanges = before ++ [⟨call, .ok ()⟩])
    fun e t => t.exchanges = before ++ [⟨call, .error e⟩] := by
  refine Ensures.onDatabase fun t ht => ?_
  unfold Transcript.record
  rw [← ht]
  rcases act t.database with ⟨e | a, m⟩
  · simp [Transcript.exchanges, Except.map]
  · simp [Transcript.exchanges, Except.map]

theorem unopened_record {call : Call} {act : Action σ α} (hc : call ≠ .begin) :
    Ensures files (fun t : Transcript σ => Unopened t.exchanges) (onDatabase (Transcript.record call act))
      (fun _ t => Unopened t.exchanges) fun _ t => Unopened t.exchanges := by
  have hnext : ∀ {before} outcome, Unopened before → Unopened (before ++ [⟨call, outcome⟩]) := by
    intro before outcome h x hx
    rcases List.mem_append.mp hx with hx | hx
    · exact h x hx
    · rw [List.mem_singleton.mp hx]
      exact hc
  have hrecord : ∀ before, Ensures files (fun t => Unopened before ∧ t.exchanges = before)
      (onDatabase (Transcript.record call act)) (fun _ t => Unopened t.exchanges) fun _ t => Unopened t.exchanges := by
    intro before
    refine Ensures.assume fun hbefore => (exchanges_record call act).mono ?_ ?_
    · exact fun _ t ht => ht ▸ hnext _ hbefore
    · exact fun _ t ht => ht ▸ hnext _ hbefore
  exact (Ensures.choose hrecord).weaken (fun t ht => ⟨t.exchanges, ht, rfl⟩) (fun _ _ h => h) fun _ _ h => h

variable (r : Runner σ)

theorem exchanges_ensureTracking : Ensures files (fun t => t.exchanges = before) r.recorded.ensureTracking
    (fun _ t => t.exchanges = before ++ [⟨.execute (Tracking.createSql r.journal.table) [], .ok ()⟩])
    fun _ _ => True :=
  Ensures.bind (Ensures.restate ((exchanges_record _ _).mono_error fun _ _ _ => trivial)) fun _ => Ensures.keep

theorem exchanges_latest : Ensures files (fun t => t.exchanges = before) r.recorded.latest
    (fun _ t => t.exchanges = before ++ [⟨.fetch (Tracking.latestSql r.journal.table) [], .ok ()⟩])
    fun _ _ => True := by
  refine Ensures.bind ((exchanges_record _ _).mono_error fun _ _ _ => trivial) fun rows => ?_
  cases rows with
  | nil => exact Ensures.keep
  | cons row rest =>
    exact Ensures.bind (Ensures.ofExcept (fun _ _ _ h => h) fun _ _ _ _ => trivial) fun _ => Ensures.keep

theorem unopened_ensureTracking : Ensures files (fun t => Unopened t.exchanges) r.recorded.ensureTracking
    (fun _ t => Unopened t.exchanges) fun _ t => Unopened t.exchanges :=
  Ensures.bind (Ensures.restate (unopened_record nofun)) fun _ => Ensures.keep

theorem unopened_applied : Ensures files (fun t => Unopened t.exchanges) r.recorded.applied
    (fun _ t => Unopened t.exchanges) fun _ t => Unopened t.exchanges :=
  Ensures.bind (unopened_record nofun) fun _ => Ensures.ofExcept (fun _ _ _ h => h) fun _ _ _ h => h

/-- Where the journal cannot list its migrations, applying what is pending fails before the first transaction. -/
theorem unopened_up {e : Error} (hlist : r.journal.list files = .error e) :
    Ensures files (fun t => Unopened t.exchanges) r.recorded.up (fun _ _ => False) fun _ t => Unopened t.exchanges := by
  refine Ensures.bind Ensures.now fun _ => Ensures.bind (unopened_ensureTracking r) fun _ => ?_
  refine Ensures.bind (Q := fun _ _ => False) (Ensures.readFiles ?_ fun _ _ _ h => h) fun _ => ?_
  · intro migrations hmigrations
    cases hlist.symm.trans hmigrations
  · exact fun _ _ h => h.elim

theorem Runner.up_of_list_error {e : Error} (hlist : r.journal.list files = .error e) (w : World σ)
    (hw : w.files = files) : (∃ e', (r.up w).1 = .error e') ∧ Unopened (r.exchanges Runner.up w) := by
  subst hw
  obtain ⟨t, -, hcalls, hres⟩ := r.mirrors_up.ends Runner.up (unopened_up r hlist)
    fun _ hx => absurd hx List.not_mem_nil
  rw [← hcalls]
  cases hrun : (r.up w).1 with
  | ok report =>
    rw [hrun] at hres
    exact hres.elim
  | error e' =>
    rw [hrun] at hres
    exact ⟨⟨e', rfl⟩, hres⟩

end Unopened

/-! ## All pending migrations -/

variable {files : FileTree} {law : List (List Prepared) → Contents → Prop} {failing : List String} {k : Contents}
  {done : List (List Prepared)} {migrations : List Migration} {j : Journal}

/-- What is pending depends on the ids of the records only. -/
theorem Runner.pending_perm {records records' : List Record} (h : records.Perm records')
    (migrations : List Migration) : pending records migrations = pending records' migrations := by
  unfold pending
  refine List.filter_congr fun m _ => ?_
  rw [h.any_eq]

/-- The statements before the first transaction are not refused, and the journal lists its migrations. -/
structure Journal.Ready (j : Journal) (failing : List String) (files : FileTree) (migrations : List Migration) :
    Prop where
  creation : ¬Refuses failing (Tracking.createSql j.table)
  query : ¬Refuses failing (Tracking.appliedSql j.table)
  list : j.list files = .ok migrations

/-- A statement before the first transaction is refused, or the journal does not list its migrations. -/
def Journal.Unready (j : Journal) (failing : List String) (files : FileTree) : Prop :=
  Refuses failing (Tracking.createSql j.table) ∨ Refuses failing (Tracking.appliedSql j.table) ∨
    ∃ e, j.list files = .error e

theorem Journal.Ready.not_unready (h : j.Ready failing files migrations) : ¬j.Unready failing files := by
  rintro (hr | hr | ⟨e, he⟩)
  · exact h.creation hr
  · exact h.query hr
  · cases he.symm.trans h.list

/-- The store rests, and no transaction has been started. -/
def Fresh (law : List (List Prepared) → Contents → Prop) (failing : List String) (k : Contents)
    (done : List (List Prepared)) (t : Transcript Memory) : Prop :=
  Rests law failing k done t ∧ Unopened t.exchanges

theorem fresh_ensureTracking : Ensures files (Fresh law failing k done) j.session.ensureTracking
    (fun _ t => ¬Refuses failing (Tracking.createSql j.table) ∧ Fresh law failing k done t ∧
      t.database.store.tracking = true)
    fun _ t => j.Unready failing files ∧ Fresh law failing k done t := by
  refine ((rests_ensureTracking j).both (unopened_ensureTracking _)).mono ?_ ?_
  · rintro _ t ⟨⟨hr, ht, htrack⟩, hopen⟩
    exact ⟨hr, ⟨ht, hopen⟩, htrack⟩
  · rintro e t ⟨⟨hr, ht⟩, hopen⟩
    exact ⟨.inl hr, ht, hopen⟩

theorem fresh_applied (hj : Text.IsPlain j.table) (migrations : List Migration) :
    Ensures files (fun t => Fresh law failing k done t ∧ t.database.store.tracking = true) j.session.applied
      (fun records t => (¬Refuses failing (Tracking.appliedSql j.table) ∧
        Runner.pending records migrations = Runner.pending k.records migrations) ∧ Rests law failing k done t)
      fun _ t => j.Unready failing files ∧ Fresh law failing k done t := by
  refine ((rests_applied j).both (unopened_applied _)).weaken
    (fun _ ⟨⟨ht, hopen⟩, htrack⟩ => ⟨⟨ht, htrack⟩, hopen⟩) ?_ ?_
  · rintro records t ⟨⟨⟨hr, s, hs, hrecords⟩, ht⟩, -⟩
    have hperm : records.Perm k.records := by
      rw [hrecords, ← hs]
      exact select_applied_perm hj s
    exact ⟨⟨hr, Runner.pending_perm hperm migrations⟩, ht⟩
  · rintro e t ⟨⟨hr, ht⟩, hopen⟩
    exact ⟨.inr (.inl hr), ht, hopen⟩

/-- Applying what is pending fails before the first transaction, or at a migration; what is before that is applied. -/
theorem ensures_up (hj : Text.IsPlain j.table)
    (hl : ∀ migrations, j.list files = .ok migrations → ∀ m ∈ migrations, ∀ done k k', law done k →
      Takes (j.upScript m) k k' → law (done ++ [j.upScript m]) k') :
    Ensures files (Fresh law failing k done) j.session.up
      (fun report t => ∃ migrations, j.Ready failing files migrations ∧
        report.applied = (Runner.pending k.records migrations).map (·.id) ∧
        report.skipped = migrations.length - (Runner.pending k.records migrations).length ∧
        ∃ k', Replays ((Runner.pending k.records migrations).map j.upScript) k k' ∧
          Rests law failing k' (done ++ (Runner.pending k.records migrations).map j.upScript) t)
      fun e t => (j.Unready failing files ∧ Fresh law failing k done t) ∨
        ∃ migrations, j.Ready failing files migrations ∧
          ∃ before m after k', Runner.pending k.records migrations = before ++ m :: after ∧
            Replays (before.map j.upScript) k k' ∧ UnitFails failing m (j.upScript m) k' e ∧
            Rests law failing k' (done ++ before.map j.upScript) t := by
  refine Ensures.bind Ensures.now fun _ => ?_
  refine Ensures.bind (fresh_ensureTracking.mono_error fun _ _ => .inl) fun _ => ?_
  refine Ensures.assume fun hcreation => ?_
  refine Ensures.bind (Q := fun migrations t => j.list files = .ok migrations ∧ Fresh law failing k done t ∧
    t.database.store.tracking = true) (Ensures.readFiles (fun _ hlist _ h => ⟨hlist, h⟩) ?_) fun migrations => ?_
  · rintro e he t ⟨ht, -⟩
    exact .inl ⟨.inr (.inr ⟨e, he⟩), ht⟩
  refine Ensures.assume fun hlist => ?_
  refine Ensures.bind ((fresh_applied hj migrations).mono_error fun _ _ => .inl) fun records => ?_
  refine Ensures.assume fun ⟨hquery, hpending⟩ => ?_
  have hready : j.Ready failing files migrations := ⟨hcreation, hquery, hlist⟩
  have hlaw : ∀ m ∈ Runner.pending k.records migrations, ∀ done k k', law done k → Takes (j.upScript m) k k' →
      law (done ++ [j.upScript m]) k' :=
    fun m hm => hl migrations hlist m (List.mem_filter.mp hm).1
  rw [hpending]
  refine Ensures.bind ((rests_applyAll j _ k done hlaw).mono_error fun _ _ h => .inr ⟨migrations, hready, h⟩)
    fun _ => ?_
  refine Ensures.bind Ensures.now fun _ => ?_
  exact Ensures.pure fun t ht => ⟨migrations, hready, rfl, rfl, ht⟩

/-! ## What a store shows -/

/-- The error of a migration that could not be applied. -/
def Error.Names (e : Error) (m : Migration) : Prop :=
  (∃ sql message, e = .statementExecution m.id sql message) ∨ ∃ cause, e = Runner.commitError m cause

theorem UnitFails.names {m : Migration} {script : List Prepared} {e : Error} (h : UnitFails failing m script k e) :
    e.Names m := by
  cases h with
  | refused hp hr => exact .inl ⟨_, _, rfl⟩
  | uncommitted h => exact .inr ⟨_, rfl⟩

theorem fresh_blank (m : Memory) : Fresh (fun _ _ => True) m.store.failing m.store.contents [] ⟨m, []⟩ :=
  ⟨rests_blank m trivial, by simp [Unopened, Transcript.exchanges]⟩

/-- A migration that creates a table. -/
def creatingPosts : Migration := ⟨"2_posts", "posts", 2, ["CREATE TABLE posts ()"], []⟩

/-- A database with the record of one migration, and a directory with the document of another one. -/
def seeded : World Memory where
  files := ⟨[(["migrations"], .directory), (["2_posts.json", "migrations"],
    .file "[\"2_posts\",\"posts\",2,[\"CREATE TABLE posts ()\"],[]]".toUTF8)], by decide, []⟩
  database := ⟨Store.empty.seed "1_users" "users" 1, []⟩
  events := []
  clock := 0

theorem list_seeded : Journal.standard.list seeded.files = .ok [creatingPosts] :=
  Attempt.eq_ok_of_toOption (by decide +kernel)

end SchemaJournal
