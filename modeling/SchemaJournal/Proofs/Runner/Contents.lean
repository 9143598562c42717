import SchemaJournal.Proofs.Runner.Prefix
import SchemaJournal.Proofs.Store.Latest
import SchemaJournal.Proofs.Store.Progress

/-!
# What operations make of the contents

What a runner does to the contents of a store, without the calls in between. Applying replays a prefix of what is
pending (`holds_up`); reverting takes the latest record and the migration of its id, and gives their script effect
(`holds_down`). A failing operation says why it fails (`Journal.Unready`, `UnitFails`, `DownFails`).
-/

namespace SchemaJournal

open Database Database.Store World

variable {files : FileTree} {law : List (List Prepared) → Contents → Prop} {failing : List String} {k : Contents}
  {done : List (List Prepared)} {j : Journal}

/-! ## Reverting the latest migration -/

/-- Why reverting the latest migration fails: a statement before the transaction is refused, the journal does not have
the migration of the latest record, or its unit fails. -/
inductive DownFails (j : Journal) (failing : List String) (files : FileTree) (k : Contents) : Error → Prop
  | creation {e : Error} (h : Refuses failing (Tracking.createSql j.table)) : DownFails j failing files k e
  | query {e : Error} (h : Refuses failing (Tracking.latestSql j.table)) : DownFails j failing files k e
  | unreadable {r : Record} {e : Error} (hr : IsLatest k.records r) (h : j.find files r.id = .error e) :
      DownFails j failing files k e
  | missing {r : Record} (hr : IsLatest k.records r) (h : j.find files r.id = .ok none) :
      DownFails j failing files k (.missingMigrationFile r.id)
  | unit {r : Record} {m : Migration} {e : Error} (hr : IsLatest k.records r) (h : j.find files r.id = .ok (some m))
      (hu : UnitFails failing m (j.downScript m) k e) : DownFails j failing files k e

/-- There is nothing to revert: no statement before the transaction is refused, and there are no records. -/
structure Journal.Spent (j : Journal) (failing : List String) (k : Contents) : Prop where
  creation : ¬Refuses failing (Tracking.createSql j.table)
  query : ¬Refuses failing (Tracking.latestSql j.table)
  records : k.records = []

/-- What reverting asks for before the transaction: the tracking table and the latest record. -/
def Journal.inquiry (j : Journal) : List Exchange :=
  [⟨.execute (Tracking.createSql j.table) [], .ok ()⟩, ⟨.fetch (Tracking.latestSql j.table) [], .ok ()⟩]

/-- Reverting gives the script of the latest migration effect, or it fails and leaves the contents. Without records
there is nothing to do. -/
theorem ensures_down (before : List Exchange) (hl : ∀ r m, IsLatest k.records r →
      j.find files r.id = .ok (some m) → ∀ k', law done k → Takes (j.downScript m) k k' →
      law (done ++ [j.downScript m]) k') :
    Ensures files (fun t => Rests law failing k done t ∧ t.exchanges = before) j.session.down
      (fun id t => (j.Spent failing k ∧ id = none ∧ Rests law failing k done t ∧
          t.exchanges = before ++ j.inquiry) ∨
        ∃ r m k', IsLatest k.records r ∧ j.find files r.id = .ok (some m) ∧ id = some m.id ∧
          Takes (j.downScript m) k k' ∧ Rests law failing k' (done ++ [j.downScript m]) t)
      fun e t => DownFails j failing files k e ∧ Rests law failing k done t := by
  refine Ensures.bind (((rests_ensureTracking j).both (exchanges_ensureTracking _)).mono_error
    fun _ _ h => ⟨.creation h.1.1, h.1.2⟩) fun _ => ?_
  refine Ensures.given (fun _ h => h.1.1) fun hcreation => ?_
  refine Ensures.bind (((rests_latest j).both (exchanges_latest _)).weaken (fun _ h => ⟨h.1.2, h.2⟩) (fun _ _ h => h)
    fun _ _ h => ⟨.query h.1.1, h.1.2⟩) fun latest => ?_
  refine Ensures.given (fun _ h => h.1.1) fun ⟨hquery, s, hs, hlatest⟩ => ?_
  rw [← hs] at hl ⊢
  cases latest with
  | none =>
    have hnone : k.records = [] := hs ▸ head?_latest_eq_none_iff.mp hlatest.symm
    refine Ensures.bind Ensures.tell fun _ => Ensures.pure fun t ht => ?_
    exact .inl ⟨⟨hcreation, hquery, hnone⟩, rfl, ht.1.2, ht.2.trans (List.append_assoc _ _ _)⟩
  | some r =>
    have hr : IsLatest s.records r := isLatest_of_head? hlatest.symm
    refine Ensures.bind (Q := fun found t => j.find files r.id = .ok found ∧ Rests law failing k done t)
      (Ensures.readFiles (fun _ hf _ h => ⟨hf, h.1.2⟩) fun _ hf _ h => ⟨.unreadable (hs ▸ hr) hf, h.1.2⟩)
      fun found => ?_
    refine Ensures.assume fun hf => ?_
    cases found with
    | none => exact Ensures.throw fun _ h => ⟨.missing (hs ▸ hr) hf, h⟩
    | some m =>
      refine Ensures.bind Ensures.tell fun _ => ?_
      refine Ensures.bind ((rests_runUnit j m m.down _ rfl (hl r m hr hf)).mono_error ?_) fun _ => ?_
      · rintro e t ⟨hu, ht⟩
        exact ⟨.unit (hs ▸ hr) hf hu, ht⟩
      · refine Ensures.bind Ensures.tell fun _ => Ensures.pure fun t ht => ?_
        obtain ⟨k', htakes, ht⟩ := ht
        exact .inr ⟨r, m, k', hr, hf, rfl, htakes, ht⟩

/-! ## Without a transcript -/

/-- What an operation ensures of a database with a blank transcript it ensures without the transcript. -/
theorem Mirrors.ensures {σ α : Type} {recorded : Action (World (Transcript σ)) α} {plain : Action (World σ) α}
    {P : Transcript σ → Prop} {Q : α → Transcript σ → Prop} {E : Error → Transcript σ → Prop}
    (hm : Mirrors recorded plain) (h : Ensures files P recorded Q E) :
    Ensures files (fun d => P ⟨d, []⟩) plain (fun a d => ∃ t, t.database = d ∧ Q a t)
      fun e d => ∃ t, t.database = d ∧ E e t := by
  intro w hf hP
  obtain ⟨hf', hres⟩ := h w.recorded hf hP
  have hrun : plain w = ((recorded w.recorded).1, (recorded w.recorded).2.unrecorded) := hm w.recorded
  rw [hrun]
  refine ⟨hf', ?_⟩
  cases hr : (recorded w.recorded).1 with
  | ok a => rw [hr] at hres; exact ⟨_, rfl, hres⟩
  | error e => rw [hr] at hres; exact ⟨_, rfl, hres⟩

/-- A memory with some contents that refuses the statements with some patterns. -/
structure Holds (failing : List String) (k : Contents) (m : Memory) : Prop where
  contents : m.store.contents = k
  failing : m.store.failing = failing

theorem Rests.holds {t : Transcript Memory} (h : Rests law failing k done t) : Holds failing k t.database :=
  ⟨h.contents, h.failing⟩

theorem Holds.fresh {m : Memory} (h : Holds failing k m) : Fresh (fun _ _ => True) failing k [] ⟨m, []⟩ := by
  obtain ⟨rfl, rfl⟩ := h
  exact fresh_blank m

/-- What is known of the contents is known of fixed contents. -/
theorem Ensures.of_contents {α : Type} {act : Action (World Memory) α} {P : Contents → Prop}
    {Q : α → Memory → Prop} {E : Error → Memory → Prop}
    (h : ∀ failing k, P k → Ensures files (Holds failing k) act Q E) :
    Ensures files (fun m => P m.store.contents) act Q E :=
  fun w hf hw => h w.database.store.failing w.database.store.contents hw w hf ⟨rfl, rfl⟩

/-- A runner for a store. -/
abbrev Journal.runner (j : Journal) : Runner Memory := ⟨j, Memory.pool⟩

/-- Applying replays all that is pending, or all up to a migration that fails, or nothing. -/
theorem holds_up (hj : Text.IsPlain j.table) : Ensures files (Holds failing k) j.runner.up
    (fun report m => ∃ migrations, j.Ready failing files migrations ∧
      report.applied = (Runner.pending k.records migrations).map (·.id) ∧
      ∃ k', Replays ((Runner.pending k.records migrations).map j.upScript) k k' ∧ Holds failing k' m)
    fun e m => (j.Unready failing files ∧ Holds failing k m) ∨
      ∃ migrations, j.Ready failing files migrations ∧ ∃ before u after k',
        Runner.pending k.records migrations = before ++ u :: after ∧ Replays (before.map j.upScript) k k' ∧
          UnitFails failing u (j.upScript u) k' e ∧ Holds failing k' m := by
  refine (j.runner.mirrors_up.ensures (ensures_up hj fun _ _ _ _ _ _ _ _ _ => trivial)).weaken
    (fun _ h => h.fresh) ?_ ?_
  · rintro report _ ⟨t, rfl, migrations, hready, happlied, -, k', hreplay, ht⟩
    exact ⟨migrations, hready, happlied, k', hreplay, ht.holds⟩
  · rintro e _ ⟨t, rfl, ⟨hu, ht, -⟩ | ⟨migrations, hready, before, u, after, k', htodo, hreplay, hfails, ht⟩⟩
    · exact .inl ⟨hu, ht.holds⟩
    · exact .inr ⟨migrations, hready, before, u, after, k', htodo, hreplay, hfails, ht.holds⟩

/-- Reverting gives the script of the latest migration effect, or it fails and leaves the contents. -/
theorem holds_down : Ensures files (Holds failing k) j.runner.down
    (fun id m => (k.records = [] ∧ id = none ∧ Holds failing k m) ∨
      ∃ r u k', IsLatest k.records r ∧ j.find files r.id = .ok (some u) ∧ id = some u.id ∧
        Takes (j.downScript u) k k' ∧ Holds failing k' m)
    fun e m => DownFails j failing files k e ∧ Holds failing k m := by
  refine (j.runner.mirrors_down.ensures (ensures_down [] fun _ _ _ _ _ _ _ => trivial)).weaken
    (fun _ h => ⟨h.fresh.1, rfl⟩) ?_ ?_
  · rintro id _ ⟨t, rfl, ⟨hspent, hid, ht, -⟩ | ⟨r, u, k', hr, hf, hid, htakes, ht⟩⟩
    · exact .inl ⟨hspent.records, hid, ht.holds⟩
    · exact .inr ⟨r, u, k', hr, hf, hid, htakes, ht.holds⟩
  · rintro e _ ⟨t, rfl, hfails, ht⟩
    exact ⟨hfails, ht.holds⟩

/-! ## Without failing patterns -/

theorem not_refuses_nil (sql : String) : ¬Refuses [] sql := nofun

/-- What takes effect on contents like these does not fail where nothing is refused. -/
theorem Database.Store.Takes.not_unitFails {u : Migration} {k' k₁ : Contents} {e : Error}
    (h : Takes (j.upScript u) k k') (ha : k.Alike k₁) : ¬UnitFails [] u (j.upScript u) k₁ e := by
  rintro (⟨-, hr⟩ | ⟨hfails⟩)
  · exact not_refuses_nil _ hr
  · exact h.not_fails_alike ha hfails

/-- Applying succeeds if all that is pending can take effect and nothing is refused. -/
theorem holds_up_of_replays (hj : Text.IsPlain j.table) {migrations : List Migration} {k₁ : Contents}
    (hlist : j.list files = .ok migrations)
    (hreplay : Replays ((Runner.pending k.records migrations).map j.upScript) k k₁) :
    Ensures files (Holds [] k) j.runner.up
      (fun report m => report.applied = (Runner.pending k.records migrations).map (·.id) ∧
        ∃ k', Replays ((Runner.pending k.records migrations).map j.upScript) k k' ∧ Holds [] k' m)
      fun _ _ => False := by
  refine (holds_up hj).mono ?_ ?_
  · rintro report m ⟨migrations', hready, happlied, k', hreplay', hm⟩
    cases hlist.symm.trans hready.list
    exact ⟨happlied, k', hreplay', hm⟩
  · rintro e m (⟨hu | hu | ⟨e', hu⟩, -⟩ | ⟨migrations', hready, before, u, after, k', htodo, hbefore, hfails, -⟩)
    · exact not_refuses_nil _ hu
    · exact not_refuses_nil _ hu
    · cases hlist.symm.trans hu
    · cases hlist.symm.trans hready.list
      rw [htodo, List.map_append, List.map_cons] at hreplay
      obtain ⟨k₂, hbefore₂, hafter⟩ := hreplay.split
      cases hafter with
      | cons htakes _ => exact htakes.not_unitFails (hbefore₂.alike hbefore (.refl k)) hfails

/-- Reverting succeeds if the journal has the migration of the latest record, its statements can change the tables and
nothing is refused. -/
theorem holds_down_of_changes {r : Record} {u : Migration} {tables : List String} (hr : r ∈ k.records)
    (hlatest : ∀ x, IsLatest k.records x → x = r) (hfind : j.find files r.id = .ok (some u))
    (hchanges : changes u.down k.tables = .ok tables) :
    Ensures files (Holds [] k) j.runner.down
      (fun id m => id = some u.id ∧ ∃ k', Takes (j.downScript u) k k' ∧ Holds [] k' m) fun _ _ => False := by
  refine holds_down.mono ?_ ?_
  · rintro id m (⟨hnone, -, -⟩ | ⟨x, v, k', hx, hv, rfl, htakes, hm⟩)
    · rw [hnone] at hr
      exact absurd hr List.not_mem_nil
    · cases hlatest x hx
      cases hfind.symm.trans hv
      exact ⟨rfl, k', htakes, hm⟩
  · rintro e m ⟨hfails, -⟩
    cases hfails with
    | creation hu => exact not_refuses_nil _ hu
    | query hu => exact not_refuses_nil _ hu
    | unreadable hx hf =>
      cases hlatest _ hx
      cases hfind.symm.trans hf
    | missing hx hf =>
      cases hlatest _ hx
      cases hfind.symm.trans hf
    | unit hx hf hu =>
      cases hlatest _ hx
      cases hfind.symm.trans hf
      cases hu with
      | refused _ hu => exact not_refuses_nil _ hu
      | uncommitted hu => exact not_fails_down hchanges hu

/-- Without the last record, the others are left if no other one has its id. -/
theorem filter_records_snoc {records : List Record} {r : Record} {id : String} (hid : r.id = id)
    (hnew : ∀ x ∈ records, x.id ≠ id) : (records ++ [r]).filter (·.id != id) = records := by
  rw [List.filter_append, List.filter_eq_self.mpr fun x hx => by simpa using hnew x hx]
  simp [hid]

/-- Reverting a migration takes its record, if this is the last and the latest one, away and changes the tables by its
statements. -/
theorem holds_down_last {records : List Record} {r : Record} {u : Migration} {tables : List String}
    (hrecords : k.records = records ++ [r]) (hid : r.id = u.id) (hlatest : ∀ x, IsLatest k.records x → x = r)
    (hnew : ∀ x ∈ records, x.id ≠ u.id) (hfind : j.find files u.id = .ok (some u))
    (hdown : changes u.down k.tables = .ok tables) :
    Ensures files (Holds [] k) j.runner.down
      (fun id s => id = some u.id ∧ s.store.failing = [] ∧ s.store.tables = tables ∧ s.store.records = records)
      fun _ _ => False := by
  refine (holds_down_of_changes (r := r) (by simp [hrecords]) hlatest (hid ▸ hfind) hdown).mono ?_ fun _ _ h => h
  rintro id s ⟨rfl, k', htakes, hs⟩
  obtain ⟨tables', hdown', rfl⟩ := takes_down htakes
  cases hdown.symm.trans hdown'
  have hleft : k.records.filter (·.id != u.id) = records := by
    rw [hrecords]
    exact filter_records_snoc hid hnew
  exact ⟨rfl, hs.failing, congrArg Contents.tables hs.contents, (congrArg Contents.records hs.contents).trans hleft⟩

/-! ## What is pending -/

/-- What was pending and is recorded is pending no longer. -/
theorem Runner.pending_of_recorded {records records' : List Record} {migrations applied rest : List Migration}
    (hp : pending records migrations = applied ++ rest) (hd : ((applied ++ rest).map (·.id)).Nodup)
    (hids : records'.map (·.id) = records.map (·.id) ++ applied.map (·.id)) : pending records' migrations = rest := by
  have hany : ∀ m : Migration, records'.any (·.id == m.id) =
      (records.any (·.id == m.id) || applied.any (·.id == m.id)) := by
    intro m
    have hmap : ∀ {α : Type} (f : α → String) (xs : List α), xs.any (f · == m.id) = (xs.map f).any (· == m.id) := by
      intro α f xs
      rw [List.any_map]
      rfl
    rw [hmap (·.id) records', hids, List.any_append, ← hmap, ← hmap]
  have hfilter : pending records' migrations =
      (pending records migrations).filter fun m => !applied.any (·.id == m.id) := by
    unfold pending
    rw [List.filter_filter]
    refine List.filter_congr fun m _ => ?_
    rw [hany, Bool.not_or, Bool.and_comm]
  rw [List.map_append] at hd
  have hdisjoint := (List.nodup_append.mp hd).2.2
  rw [hfilter, hp, List.filter_append, List.filter_eq_nil_iff.mpr ?_, List.nil_append, List.filter_eq_self]
  · intro m hm
    simp only [Bool.not_eq_true', List.any_eq_false, beq_iff_eq]
    intro u hu hid
    exact hdisjoint u.id (List.mem_map_of_mem hu) m.id (List.mem_map_of_mem hm) hid
  · intro m hm
    simp only [Bool.not_eq_true', Bool.not_eq_false, List.any_eq_true, beq_iff_eq]
    exact ⟨m, hm, rfl⟩

end SchemaJournal
