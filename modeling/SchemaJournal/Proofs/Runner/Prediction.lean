import Mathlib.Data.List.Nodup
import SchemaJournal.Proofs.Runner.Contents

/-!
# Status tells what applying does

`Runner.status` looks for the record of every migration, `Runner.up` for the migrations without one. Both fail in the
same way before they differ (`status_cases`), so what a status marks as pending is what applying does next, all of it
or the first migrations up to one that fails (`Journal.Ready.follows`). After that nothing is pending any more
(`status_predicts_up`).
-/

namespace SchemaJournal

open Database Database.Store World

namespace Runner

/-! ## Records without a migration -/

/-- The records of which there is no migration. -/
def orphans (migrations : List Migration) (records : List Record) : List Record :=
  records.filter fun r => !migrations.any (·.id == r.id)

/-- What is told of a record without a migration. -/
def orphanWarning (j : Journal) (r : Record) : Event :=
  ⟨.warn, "Applied migration " ++ r.id ++ " has no migration file in " ++ j.directory.text⟩

theorem tellOrphans_run {σ : Type} (r : Runner σ) (migrations : List Migration) (records : List Record)
    (w : World σ) : r.tellOrphans migrations records w =
      (.ok (), { w with events := w.events ++ (orphans migrations records).map (orphanWarning r.journal) }) := by
  induction records generalizing w with
  | nil =>
    have hnone : w = { w with events := w.events ++ [] } := by rw [List.append_nil]
    exact congrArg (Prod.mk (Except.ok ())) hnone
  | cons record rest ih =>
    unfold tellOrphans
    by_cases hknown : migrations.any (·.id == record.id) = true
    · have horphans : orphans migrations (record :: rest) = orphans migrations rest :=
        List.filter_cons_of_neg (by simp [hknown])
      rw [horphans, ← ih]
      simp only [hknown, Bool.not_true, Bool.false_eq_true, if_false]
    · have horphans : orphans migrations (record :: rest) = record :: orphans migrations rest :=
        List.filter_cons_of_pos (by simpa using hknown)
      rw [if_pos (by simpa using hknown), horphans, List.map_cons]
      let warned : World σ := { w with events := w.events ++ [orphanWarning r.journal record] }
      have htell : tell .warn (orphanWarning r.journal record).message w = (.ok (), warned) := rfl
      refine (Attempt.bind_ok htell _).trans ?_
      refine (ih _).trans ?_
      rw [List.append_assoc]
      rfl

/-! ## The marks of a status -/

/-- The migrations that a status marks as pending. -/
def markedPending (states : List (Migration × Option Moment)) : List Migration :=
  (states.filter (·.2.isNone)).map (·.1)

/-- The migrations that a status marks as applied. -/
def markedApplied (states : List (Migration × Option Moment)) : List Migration :=
  (states.filter (·.2.isSome)).map (·.1)

/-- Every migration with the moment of its first record. -/
def marked (records : List Record) (migrations : List Migration) : List (Migration × Option Moment) :=
  migrations.map fun m => (m, (records.find? (·.id == m.id)).map (·.executedAt))

variable {records : List Record} {migrations : List Migration} {m : Migration} {moment : Moment}

theorem map_fst_marked : (marked records migrations).map (·.1) = migrations := by
  simp [marked, Function.comp_def]

/-- A migration is marked as pending if no record has its id. -/
theorem markedPending_marked : markedPending (marked records migrations) = pending records migrations := by
  have hmark : ∀ m : Migration, ((records.find? (·.id == m.id)).map (·.executedAt)).isNone =
      !records.any (·.id == m.id) := by
    intro m
    rw [Option.isNone_map, ← Option.not_isSome, List.isSome_find?]
  unfold markedPending marked pending
  rw [List.filter_map, List.map_map]
  simp only [Function.comp_def, hmark, List.map_id']

/-- What is not marked as pending is marked as applied. -/
theorem length_markedApplied_marked :
    (markedApplied (marked records migrations)).length = migrations.length - (pending records migrations).length := by
  have hparts : ∀ states : List (Migration × Option Moment),
      (markedApplied states).length + (markedPending states).length = states.length := by
    intro states
    have hnone : (fun s : Migration × Option Moment => s.2.isNone) = fun s => !s.2.isSome := by simp
    rw [markedApplied, markedPending, List.length_map, List.length_map, hnone]
    exact (List.length_eq_length_filter_add fun s : Migration × Option Moment => s.2.isSome).symm
  have hlength : (marked records migrations).length = migrations.length := List.length_map _
  have := hparts (marked records migrations)
  rw [markedPending_marked] at this
  omega

/-- If no two records have the same id, the mark of a migration is the moment of the record with its id. -/
theorem mark_eq_some_iff (hnodup : (records.map (·.id)).Nodup) :
    (records.find? (·.id == m.id)).map (·.executedAt) = some moment ↔
      ∃ r ∈ records, r.id = m.id ∧ r.executedAt = moment := by
  rw [Option.map_eq_some_iff]
  constructor
  · rintro ⟨r, hfind, hmoment⟩
    exact ⟨r, List.mem_of_find?_eq_some hfind, by simpa using List.find?_some hfind, hmoment⟩
  · rintro ⟨r, hr, hid, hmoment⟩
    cases hfind : records.find? (·.id == m.id) with
    | none => exact absurd hid (by simpa using List.find?_eq_none.mp hfind r hr)
    | some r' =>
      have hid' : r'.id = m.id := by simpa using List.find?_some hfind
      have hsame : r' = r :=
        List.inj_on_of_nodup_map hnodup (List.mem_of_find?_eq_some hfind) hr (hid'.trans hid.symm)
      exact ⟨r', rfl, hsame ▸ hmoment⟩

end Runner

/-! ## How a status ends -/

variable {j : Journal} {files : FileTree} {failing : List String} {k : Contents} {migrations : List Migration}
  {w : World Memory}

/-- The same world after its tracking table was created. -/
def World.tracked (w : World Memory) : World Memory :=
  { w with database := { w.database with store := { w.database.store with tracking := true } } }

/-- Creating the tracking table is refused, or the table is there. -/
theorem ensureTracking_cases (j : Journal) (w : World Memory) :
    (Refuses w.database.store.failing (Tracking.createSql j.table) ∧
        ∃ e, j.runner.ensureTracking w = (.error e, w)) ∨
      (¬Refuses w.database.store.failing (Tracking.createSql j.table) ∧
        j.runner.ensureTracking w = (.ok (), w.tracked)) := by
  rcases Memory.execute_creation_cases w.database j.table with ⟨hr, hrun⟩ | ⟨hr, hrun⟩
  · let message := "Failed to create migrations table: " ++ (refusal (Tracking.createSql j.table)).message
    refine .inl ⟨hr, .database message, Attempt.bind_error ?_ _⟩
    unfold Attempt.restate onDatabase Attempt.within
    rw [hrun]
    rfl
  · have hcreate : ∀ wrap : Error → Error,
        (onDatabase (j.runner.pool.execute (Tracking.createSql j.table) [])).restate wrap w = (.ok 0, w.tracked) := by
      intro wrap
      unfold Attempt.restate onDatabase Attempt.within
      rw [hrun]
      rfl
    exact .inr ⟨hr, Attempt.bind_ok (hcreate _) _⟩

/-- Once the tracking table is there, the query for all records is refused or answered, the oldest record first. -/
theorem applied_cases (hj : Text.IsPlain j.table) (htrack : w.database.store.tracking = true) :
    (Refuses w.database.store.failing (Tracking.appliedSql j.table) ∧ ∃ e, j.runner.applied w = (.error e, w)) ∨
      (¬Refuses w.database.store.failing (Tracking.appliedSql j.table) ∧
        j.runner.applied w = (.ok (w.database.store.records.mergeSort Record.before), w)) := by
  have hselect : w.database.store.select (Tracking.appliedSql j.table) =
      w.database.store.records.mergeSort Record.before := by
    rw [select, asksLatest_appliedSql hj]
    rfl
  rcases fetch_cases (Tracking.appliedSql j.table) htrack with ⟨hr, hfetch⟩ | ⟨hr, hfetch⟩
  · have hrun : onDatabase (j.runner.pool.fetch (Tracking.appliedSql j.table) []) w =
        (.error (refusal (Tracking.appliedSql j.table)), w) := Prod.ext hfetch rfl
    exact .inl ⟨hr, _, Attempt.bind_error hrun _⟩
  · have hrun : onDatabase (j.runner.pool.fetch (Tracking.appliedSql j.table) []) w =
        (.ok ((w.database.store.select (Tracking.appliedSql j.table)).map Record.toRow), w) := Prod.ext hfetch rfl
    refine .inr ⟨hr, (Attempt.bind_ok hrun _).trans ?_⟩
    rw [mapM_toRow, hselect]
    rfl

/-- The events of a status: one for every record without a migration, the oldest first. -/
def Runner.orphanEvents (j : Journal) (migrations : List Migration) (records : List Record) : List Event :=
  (Runner.orphans migrations (records.mergeSort Record.before)).map (Runner.orphanWarning j)

/-- A status fails before anything is told, or it tells of all records without a migration and marks all migrations.
Nothing but the tracking table has changed in the end. -/
theorem status_cases (hj : Text.IsPlain j.table) (w : World Memory) :
    (j.Unready w.database.store.failing w.files ∧
        ∃ e w', j.runner.status w = (.error e, w') ∧ (w' = w ∨ w' = w.tracked)) ∨
    ∃ migrations, j.Ready w.database.store.failing w.files migrations ∧ j.runner.status w =
      (.ok (Runner.marked (w.database.store.records.mergeSort Record.before) migrations),
        { w.tracked with events := w.events ++ Runner.orphanEvents j migrations w.database.store.records }) := by
  rcases ensureTracking_cases j w with ⟨hcreation, e, hrun⟩ | ⟨hcreation, hrun⟩
  · exact .inl ⟨.inl hcreation, e, w, Attempt.bind_error hrun _, .inl rfl⟩
  have hlists : readFiles j.runner.journal.list w.tracked = (j.list w.files, w.tracked) := rfl
  cases hlist : j.list w.files with
  | error e =>
    rw [hlist] at hlists
    refine .inl ⟨.inr (.inr ⟨e, hlist⟩), e, w.tracked, (Attempt.bind_ok hrun _).trans ?_, .inr rfl⟩
    exact Attempt.bind_error hlists _
  | ok migrations =>
    rw [hlist] at hlists
    rcases applied_cases (w := w.tracked) hj rfl with ⟨hquery, e, happlied⟩ | ⟨hquery, happlied⟩
    · refine .inl ⟨.inr (.inl hquery), e, w.tracked, (Attempt.bind_ok hrun _).trans ?_, .inr rfl⟩
      refine (Attempt.bind_ok hlists _).trans ?_
      exact Attempt.bind_error happlied _
    · refine .inr ⟨migrations, ⟨hcreation, hquery, hlist⟩, (Attempt.bind_ok hrun _).trans ?_⟩
      refine (Attempt.bind_ok hlists _).trans ?_
      refine (Attempt.bind_ok happlied _).trans ?_
      exact Attempt.bind_ok (Runner.tellOrphans_run j.runner migrations _ w.tracked) _

/-- If nothing before the first transaction fails, a status has a result. -/
theorem status_of_ready (hj : Text.IsPlain j.table)
    (hready : j.Ready w.database.store.failing w.files migrations) : j.runner.status w =
      (.ok (Runner.marked (w.database.store.records.mergeSort Record.before) migrations),
        { w.tracked with events := w.events ++ Runner.orphanEvents j migrations w.database.store.records }) := by
  rcases status_cases hj w with ⟨hu, -⟩ | ⟨migrations', hready', hrun⟩
  · exact absurd hu hready.not_unready
  · cases hready.list.symm.trans hready'.list
    exact hrun

/-- A status with a result has passed all that could fail. -/
theorem exists_of_status (hj : Text.IsPlain j.table) {states : List (Migration × Option Moment)} {w' : World Memory}
    (h : j.runner.status w = (.ok states, w')) : ∃ migrations, j.Ready w.database.store.failing w.files migrations ∧
      states = Runner.marked (w.database.store.records.mergeSort Record.before) migrations ∧
      w' = { w.tracked with events := w.events ++ Runner.orphanEvents j migrations w.database.store.records } := by
  rcases status_cases hj w with ⟨-, e, w₀, hrun, -⟩ | ⟨migrations, hready, hrun⟩
  · cases h.symm.trans hrun
  · cases h.symm.trans hrun
    exact ⟨migrations, hready, rfl, rfl⟩

/-! ## How applying ends -/

/-- Applying does what is pending and says so, or it does a part of it up to a migration that fails. -/
theorem up_of_ready (hj : Text.IsPlain j.table) (hready : j.Ready failing files migrations) :
    Ensures files (Holds failing k) j.runner.up
      (fun report m => report.applied = (Runner.pending k.records migrations).map (·.id) ∧
        report.skipped = migrations.length - (Runner.pending k.records migrations).length ∧
        Replays ((Runner.pending k.records migrations).map j.upScript) k m.store.contents)
      fun e m => ∃ done u rest, Runner.pending k.records migrations = done ++ u :: rest ∧ e.Names u ∧
        Replays (done.map j.upScript) k m.store.contents := by
  refine (j.runner.mirrors_up.ensures (ensures_up hj fun _ _ _ _ _ _ _ _ _ => trivial)).weaken
    (fun _ h => h.fresh) ?_ ?_
  · rintro report _ ⟨t, rfl, migrations', hready', happlied, hskipped, k', hreplay, ht⟩
    cases hready.list.symm.trans hready'.list
    exact ⟨happlied, hskipped, ht.contents ▸ hreplay⟩
  · rintro e _ ⟨t, rfl, ⟨hu, -⟩ | ⟨migrations', hready', done, u, rest, k', htodo, hreplay, hfails, ht⟩⟩
    · exact absurd hu hready.not_unready
    · cases hready.list.symm.trans hready'.list
      exact ⟨done, u, rest, htodo, hfails.names, ht.contents ▸ hreplay⟩

/-! ## Predictions -/

/-- Worlds with the same files and the same contents of a store that refuses the same statements. -/
structure World.Same (w v : World Memory) : Prop where
  files : v.files = w.files
  contents : v.database.store.contents = w.database.store.contents
  failing : v.database.store.failing = w.database.store.failing

namespace World.Same

variable {v : World Memory}

theorem refl (w : World Memory) : w.Same w := ⟨rfl, rfl, rfl⟩

theorem records (h : w.Same v) : v.database.store.records = w.database.store.records :=
  congrArg Contents.records h.contents

theorem ready (h : w.Same v) (hready : j.Ready w.database.store.failing w.files migrations) :
    j.Ready v.database.store.failing v.files migrations := by
  rw [h.failing, h.files]
  exact hready

end World.Same

/-- What a status tells of a world: every migration of the journal in its order, with the moment of its record if it
has one, and a warning for each record without a migration. -/
structure Journal.Tells (j : Journal) (w : World Memory) (states : List (Migration × Option Moment))
    (events : List Event) : Prop where
  lists : j.list w.files = .ok (states.map (·.1))
  marks : ∀ s ∈ states, ∀ moment, s.2 = some moment ↔
    ∃ r ∈ w.database.store.records, r.id = s.1.id ∧ r.executedAt = moment
  warns : ∃ warned : List Record, events = w.events ++ warned.map (Runner.orphanWarning j) ∧
    warned.Perm (w.database.store.records.filter fun r => !states.any (·.1.id == r.id))

/-- Applying does what a status marks as pending, in that order, and skips what it marks as applied; if it fails then
at one of these migrations, with the ones before it done. -/
structure Journal.Follows (j : Journal) (states : List (Migration × Option Moment)) (v : World Memory) : Prop where
  ok : ∀ report v', j.runner.up v = (.ok report, v') →
    report.applied = (Runner.markedPending states).map (·.id) ∧
    report.skipped = (Runner.markedApplied states).length ∧
    Replays ((Runner.markedPending states).map j.upScript) v.database.store.contents v'.database.store.contents
  error : ∀ e v', j.runner.up v = (.error e, v') →
    ∃ done u rest, Runner.markedPending states = done ++ u :: rest ∧ e.Names u ∧
      Replays (done.map j.upScript) v.database.store.contents v'.database.store.contents

theorem Journal.Ready.tells (hready : j.Ready failing w.files migrations)
    (hnodup : (w.database.store.records.map (·.id)).Nodup) :
    j.Tells w (Runner.marked (w.database.store.records.mergeSort Record.before) migrations)
      (w.events ++ Runner.orphanEvents j migrations w.database.store.records) := by
  have hperm : (w.database.store.records.mergeSort Record.before).Perm w.database.store.records :=
    List.mergeSort_perm _ _
  have hfst : (Runner.marked (w.database.store.records.mergeSort Record.before) migrations).map (·.1) = migrations :=
    Runner.map_fst_marked
  refine ⟨hfst.symm ▸ hready.list, fun s hs moment => ?_, _, rfl, ?_⟩
  · obtain ⟨m, -, rfl⟩ := List.mem_map.mp hs
    refine (Runner.mark_eq_some_iff ((hperm.map _).nodup_iff.mpr hnodup)).trans ?_
    simp only [hperm.mem_iff]
  · have hany : ∀ r : Record, (Runner.marked (w.database.store.records.mergeSort Record.before) migrations).any
        (·.1.id == r.id) = migrations.any (·.id == r.id) := by
      intro r
      rw [Runner.marked, List.any_map]
      rfl
    simp only [hany]
    exact hperm.filter _

theorem Journal.Ready.follows (hj : Text.IsPlain j.table) {records : List Record} {v : World Memory}
    (hready : j.Ready v.database.store.failing v.files migrations)
    (hrecords : records.Perm v.database.store.contents.records) :
    j.Follows (Runner.marked records migrations) v := by
  have hpending : Runner.markedPending (Runner.marked records migrations) =
      Runner.pending v.database.store.contents.records migrations :=
    Runner.markedPending_marked.trans (Runner.pending_perm hrecords migrations)
  have hskipped : (Runner.markedApplied (Runner.marked records migrations)).length =
      migrations.length - (Runner.pending v.database.store.contents.records migrations).length := by
    rw [Runner.length_markedApplied_marked, Runner.pending_perm hrecords]
  constructor
  · intro report v' hrun
    rw [hpending, hskipped]
    exact ((up_of_ready hj hready).ok rfl ⟨rfl, rfl⟩ hrun).2
  · intro e v' hrun
    rw [hpending]
    exact ((up_of_ready hj hready).error rfl ⟨rfl, rfl⟩ hrun).2

/-- After all that was pending is applied, nothing is pending. -/
theorem pending_after_up (hj : Text.IsPlain j.table) {report : UpReport} {w₁ v : World Memory}
    (hup : j.runner.up w = (.ok report, w₁)) (hsame : w₁.Same v) (hlist : j.list v.files = .ok migrations) :
    Runner.pending v.database.store.records migrations = [] := by
  obtain ⟨hfiles, migrations', hready, -, k', hreplay, hk⟩ := (holds_up hj).ok rfl ⟨rfl, rfl⟩ hup
  rw [hsame.files, hfiles] at hlist
  cases hlist.symm.trans hready.list
  have hids := hreplay.ids
  rw [← hk.contents] at hids
  have hnodup := hreplay.nodup
  rw [← List.append_nil (Runner.pending _ _)] at hnodup
  rw [hsame.records]
  exact Runner.pending_of_recorded (List.append_nil _).symm hnodup hids

/-- **Status tells what applying does.** A status changes nothing, lists all migrations with their moments and warns of
the records without one; applying then does what it marks as pending. Once applying has succeeded, a status marks
nothing as pending and applying does nothing more. -/
theorem status_predicts_up (j : Journal) (hj : Text.IsPlain j.table) (w : World Memory)
    (hnodup : (w.database.store.records.map (·.id)).Nodup) :
    w.Same (j.runner.status w).2 ∧
    (∀ states w', j.runner.status w = (.ok states, w') →
      j.Tells w states w'.events ∧ ∀ v, w.Same v → j.Follows states v) ∧
    ∀ report w₁, j.runner.up w = (.ok report, w₁) → ∀ v, w₁.Same v →
      (∀ states v', j.runner.status v = (.ok states, v') → Runner.markedPending states = []) ∧
      ∀ again v', j.runner.up v = (.ok again, v') → again.applied = [] ∧ w₁.Same v' := by
  refine ⟨?_, fun states w' hstatus => ?_, fun report w₁ hup v hsame => ⟨fun states v' hstatus => ?_, ?_⟩⟩
  · rcases status_cases hj w with ⟨-, e, w', hrun, rfl | rfl⟩ | ⟨migrations, -, hrun⟩
    all_goals
      rw [hrun]
      exact ⟨rfl, rfl, rfl⟩
  · obtain ⟨migrations, hready, rfl, rfl⟩ := exists_of_status hj hstatus
    refine ⟨hready.tells hnodup, fun v hsame => (hsame.ready hready).follows hj ?_⟩
    have hrecords : v.database.store.contents.records = w.database.store.records := hsame.records
    rw [hrecords]
    exact List.mergeSort_perm _ _
  · obtain ⟨migrations, hready, rfl, -⟩ := exists_of_status hj hstatus
    rw [Runner.markedPending_marked, Runner.pending_perm (List.mergeSort_perm _ _)]
    exact pending_after_up hj hup hsame hready.list
  · intro again v' hagain
    obtain ⟨hfiles, migrations, hready, happlied, k', hreplay, hv'⟩ := (holds_up hj).ok rfl ⟨rfl, rfl⟩ hagain
    have hnone : Runner.pending v.database.store.contents.records migrations = [] :=
      pending_after_up hj hup hsame hready.list
    rw [hnone] at happlied hreplay
    cases hreplay
    exact ⟨happlied, hfiles.trans hsame.files, hv'.contents.trans hsame.contents, hv'.failing.trans hsame.failing⟩

/-- A record without a migration is warned of; the migration without a record is pending, and once it is applied
nothing is pending. -/
theorem seeded_status_predicts_up : Text.IsPlain Journal.standard.table ∧
    (seeded.database.store.records.map (·.id)).Nodup ∧ ∃ w' report w₁,
    Journal.standard.runner.status seeded = (.ok [(creatingPosts, none)], w') ∧
    w'.events = [⟨.warn, "Applied migration 1_users has no migration file in migrations"⟩] ∧
    Journal.standard.runner.up seeded = (.ok report, w₁) ∧ report.applied = ["2_posts"] ∧ report.skipped = 0 ∧
    ∀ states v, Journal.standard.runner.status w₁ = (.ok states, v) → Runner.markedPending states = [] := by
  have hplain : Text.IsPlain Journal.standard.table := by decide
  have hnodup : (seeded.database.store.records.map (·.id)).Nodup := by decide
  have hready : Journal.standard.Ready [] seeded.files [creatingPosts] :=
    ⟨not_refuses_nil _, not_refuses_nil _, list_seeded⟩
  have hevents : seeded.events ++ Runner.orphanEvents .standard [creatingPosts] seeded.database.store.records =
      [⟨.warn, "Applied migration 1_users has no migration file in migrations"⟩] := by decide +kernel
  have hmarked : Runner.marked (seeded.database.store.records.mergeSort Record.before) [creatingPosts] =
      [(creatingPosts, none)] := by decide +kernel
  have hstatus := status_of_ready (w := seeded) hplain hready
  rw [hevents, hmarked] at hstatus
  have hchanges : changes ([creatingPosts].flatMap (·.up)) [] = .ok ["posts"] :=
    Attempt.eq_ok_of_toOption (by decide +kernel)
  obtain ⟨k, hreplay, -⟩ := exists_replays (j := .standard) (k := seeded.database.store.contents) hchanges
    (by decide) (by decide)
  obtain ⟨report, w₁, hup, -⟩ :=
    (holds_up_of_replays (k := seeded.database.store.contents) hplain list_seeded hreplay).exists_ok rfl ⟨rfl, rfl⟩
  obtain ⟨-, htells, hafter⟩ := status_predicts_up .standard hplain seeded hnodup
  obtain ⟨happlied, hskipped, -⟩ := ((htells _ _ hstatus).2 seeded (.refl seeded)).ok report w₁ hup
  exact ⟨hplain, hnodup, _, report, w₁, hstatus, rfl, hup, happlied, hskipped,
    (hafter report w₁ hup w₁ (.refl w₁)).1⟩

end SchemaJournal
