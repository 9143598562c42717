import SchemaJournal.Proofs.Journal.Stem
import SchemaJournal.Proofs.Runner.Contents

/-!
# Reverting in the opposite order

Migrations that were applied to a store without records are reverted one by one, the last one first, whatever their
times are: their records are in the order of times because the journal lists them so, and the latest record is that of
the migration applied last (`holds_down_snoc`, `holds_downs`). What was reverted is what is applied again
(`downs_undo_up`).
-/

namespace SchemaJournal

open Database Database.Store World

/-- Reverts the latest migration so many times; the id of each, or none where no migration was applied. -/
def Runner.downs {σ : Type} (r : Runner σ) : Nat → Action (World σ) (List (Option String))
  | 0 => return []
  | n + 1 => do
    let ids ← r.downs n
    return ids ++ [← r.down]

/-- Migrations in the order of times, with ids that are different from each other and name documents. -/
structure Orderly (migrations : List Migration) : Prop where
  sorted : migrations.Pairwise fun a b => a.stamp.Le b.stamp
  nodup : (migrations.map (·.id)).Nodup
  stems : ∀ m ∈ migrations, Path.IsStem m.id

/-- The records are those of these migrations, in this order. -/
def Stacks (migrations : List Migration) (k : Contents) : Prop :=
  k.records.map Record.facts = migrations.map Migration.facts

variable {files : FileTree} {j : Journal} {migrations stack : List Migration} {u : Migration}

theorem Orderly.initial {migrations stack : List Migration} (h : Orderly migrations) (hp : stack <+: migrations) :
    Orderly stack where
  sorted := h.sorted.sublist hp.sublist
  nodup := h.nodup.sublist (hp.sublist.map _)
  stems m hm := h.stems m (hp.subset hm)

/-- The record of the last one of some migrations is the latest one. -/
theorem Orderly.eq_of_isLatest (h : Orderly (stack ++ [u])) {records : List Record} {r x : Record}
    (hrecords : records.map Record.facts = stack.map Migration.facts) (hr : r.facts = u.facts)
    (hx : IsLatest (records ++ [r]) x) : x = r := by
  refine hx.eq_of_snoc fun y hy hle => ?_
  have hmem : y.facts ∈ stack.map Migration.facts := by
    rw [← hrecords]
    exact List.mem_map_of_mem hy
  obtain ⟨v, hv, hvy⟩ := List.mem_map.mp hmem
  simp only [Record.facts, Migration.facts, Prod.mk.injEq] at hr hvy
  have hvu : v.stamp.Le u.stamp := (List.pairwise_append.mp h.sorted).2.2 v hv u List.mem_cons_self
  have huv : u.stamp.Le v.stamp := by
    simp only [Record.stamp, hr.1, hr.2.2, ← hvy.1, ← hvy.2.2] at hle
    exact hle
  have hid : v.id = u.id := congrArg Prod.snd (hvu.antisymm huv)
  have hnodup := h.nodup
  rw [List.map_append, List.nodup_append] at hnodup
  exact hnodup.2.2 v.id (List.mem_map_of_mem hv) u.id (by simp) hid

/-- No other migration has the id of the last one. -/
theorem Orderly.id_ne (h : Orderly (stack ++ [u])) {records : List Record}
    (hrecords : records.map Record.facts = stack.map Migration.facts) : ∀ r ∈ records, r.id ≠ u.id := by
  intro r hr
  have hnodup := h.nodup
  rw [List.map_append, List.nodup_append, ← Migration.map_id_facts stack, ← hrecords, Record.map_id_facts] at hnodup
  exact hnodup.2.2 r.id (List.mem_map_of_mem hr) u.id (by simp)

/-- The last record is that of the last migration. -/
theorem Stacks.snoc {k : Contents} (h : Stacks (stack ++ [u]) k) : ∃ old r, k.records = old ++ [r] ∧
    old.map Record.facts = stack.map Migration.facts ∧ r.facts = u.facts := by
  obtain ⟨old, last, hrecords, hold, hlast⟩ := List.map_eq_append_iff.mp (h.trans (List.map_append ..))
  obtain ⟨r, rfl, hr⟩ := List.map_eq_singleton_iff.mp hlast
  exact ⟨old, r, hrecords, hold, hr⟩

/-- Without records there is nothing to revert. -/
theorem holds_down_nil {failing : List String} {k : Contents} (hk : k.records = []) :
    Ensures files (Holds failing k) j.runner.down (fun id m => id = none ∧ Holds failing k m) fun _ _ => True := by
  refine holds_down.mono ?_ fun _ _ _ => trivial
  rintro id m (⟨-, hid, hm⟩ | ⟨r, -, -, hr, -⟩)
  · exact ⟨hid, hm⟩
  · rw [hk] at hr
    exact absurd hr.1 List.not_mem_nil

/-- Reverting takes the last migration off the stack. -/
theorem holds_down_snoc (h : Orderly (stack ++ [u])) :
    Ensures files (fun m => Stacks (stack ++ [u]) m.store.contents) j.runner.down
      (fun id m => id = some u.id ∧ Stacks stack m.store.contents) fun _ _ => True := by
  refine Ensures.of_contents fun failing k hk => holds_down.mono ?_ fun _ _ _ => trivial
  obtain ⟨old, r, hrecords, hold, hr⟩ := hk.snoc
  have hid : r.id = u.id := congrArg Prod.fst hr
  rintro id m (⟨hnone, -, -⟩ | ⟨x, v, k', hx, hfind, rfl, htakes, hm⟩)
  · rw [hrecords] at hnone
    simp at hnone
  · rw [hrecords] at hx
    cases h.eq_of_isLatest hold hr hx
    have hv : v.id = u.id := by
      rw [← hid]
      exact Journal.id_of_find (hid ▸ h.stems u (by simp)) hfind
    obtain ⟨tables, -, rfl⟩ := takes_down htakes
    have hleft : k.records.filter (·.id != v.id) = old := by
      rw [hrecords, hv]
      exact filter_records_snoc hid (h.id_ne hold)
    exact ⟨congrArg some hv, by rw [hm.contents, Stacks, hleft, hold]⟩

/-- Reverting the last migration succeeds if its statements can change the tables and nothing is refused. -/
theorem holds_down_top (h : Orderly (stack ++ [u])) {tables tables' : List String}
    (hfind : j.find files u.id = .ok (some u)) (hchanges : changes u.down tables = .ok tables') :
    Ensures files (fun m => Stacks (stack ++ [u]) m.store.contents ∧ m.store.failing = [] ∧ m.store.tables = tables)
      j.runner.down
      (fun id m => id = some u.id ∧ Stacks stack m.store.contents ∧ m.store.failing = [] ∧ m.store.tables = tables')
      fun _ _ => False := by
  rintro w hf ⟨hstack, hfailing, rfl⟩
  obtain ⟨old, r, hrecords, hold, hr⟩ := hstack.snoc
  have hlatest : ∀ x, IsLatest w.database.store.contents.records x → x = r := by
    intro x hx
    rw [hrecords] at hx
    exact h.eq_of_isLatest hold hr hx
  have hdown : Ensures files (Holds [] w.database.store.contents) j.runner.down
      (fun id m => id = some u.id ∧ Stacks stack m.store.contents ∧ m.store.failing = [] ∧ m.store.tables = tables')
      fun _ _ => False := by
    have hid : r.id = u.id := congrArg Prod.fst hr
    refine (holds_down_last hrecords hid hlatest (h.id_ne hold) hfind hchanges).mono ?_ fun _ _ h => h
    rintro id m ⟨hreverted, hfailing', htables', hrecords'⟩
    exact ⟨hreverted, (congrArg (List.map Record.facts) hrecords').trans hold, hfailing', htables'⟩
  exact hdown w hf ⟨rfl, hfailing⟩

/-- Reverting so many times takes so many migrations off the stack, the last one first. -/
theorem holds_downs (h : Orderly migrations) (n : Nat) : Ensures files (fun m => Stacks migrations m.store.contents)
    (j.runner.downs n) (fun ids m => ids = ((migrations.map (·.id)).reverse.take n).map some ++
        List.replicate (n - migrations.length) none ∧
      Stacks (migrations.take (migrations.length - n)) m.store.contents) fun _ _ => True := by
  induction n with
  | zero => exact Ensures.pure fun m hm => ⟨by simp, by simpa using hm⟩
  | succ n ih =>
    refine Ensures.bind ih fun ids => Ensures.assume fun hids => ?_
    subst hids
    by_cases hn : n < migrations.length
    · obtain ⟨i, hi⟩ : ∃ i, migrations.length - n = i + 1 := ⟨migrations.length - n - 1, by omega⟩
      have hlt : i < migrations.length := by omega
      have htake : migrations.take (migrations.length - n) = migrations.take i ++ [migrations[i]] := by
        rw [hi, List.take_succ_eq_append_getElem hlt]
      have hrev : (migrations.map (·.id)).reverse.take (n + 1) =
          (migrations.map (·.id)).reverse.take n ++ [migrations[i].id] := by
        rw [List.take_succ_eq_append_getElem (by simpa using hn), List.getElem_reverse, List.getElem_map]
        have hindex : (migrations.map (·.id)).length - 1 - n = i := by
          rw [List.length_map]
          omega
        simp only [hindex]
      have horderly : Orderly (migrations.take i ++ [migrations[i]]) := by
        rw [← htake]
        exact h.initial (List.take_prefix _ _)
      rw [htake]
      refine Ensures.bind (holds_down_snoc horderly) fun id => Ensures.pure fun m hm => ?_
      obtain ⟨rfl, hm⟩ := hm
      refine ⟨?_, by rwa [show migrations.length - (n + 1) = i by omega]⟩
      rw [hrev, show n - migrations.length = 0 by omega, show n + 1 - migrations.length = 0 by omega]
      simp
    · have htake : migrations.take (migrations.length - n) = [] := by
        rw [show migrations.length - n = 0 by omega, List.take_zero]
      have hnil : Ensures files (fun m => Stacks [] m.store.contents) j.runner.down
          (fun id m => id = none ∧ Stacks [] m.store.contents) fun _ _ => True :=
        Ensures.of_contents fun failing k hk => (holds_down_nil (List.map_eq_nil_iff.mp hk)).mono
          (fun _ _ h => ⟨h.1, h.2.contents.symm ▸ hk⟩) fun _ _ h => h
      rw [htake]
      refine Ensures.bind hnil fun id => Ensures.pure fun m hm => ?_
      obtain ⟨rfl, hm⟩ := hm
      refine ⟨?_, by rwa [show migrations.length - (n + 1) = 0 by omega, List.take_zero]⟩
      have hlength : (migrations.map (·.id)).reverse.length ≤ n := by
        simpa using hn
      rw [List.take_of_length_le hlength, List.take_of_length_le (by omega),
        show n + 1 - migrations.length = n - migrations.length + 1 by omega, List.replicate_succ', List.append_assoc]

/-! ## Applying, reverting and applying again -/

/-- What a journal lists and a store has applied is orderly. -/
theorem orderly_of_replays {k k' : Contents} (hlist : j.list files = .ok migrations)
    (hreplay : Replays (migrations.map j.upScript) k k') : Orderly migrations where
  sorted := Journal.pairwise_list hlist
  nodup := hreplay.nodup
  stems _ hm := Journal.isStem_of_list hlist hm

/-- If the first migrations are recorded, the others are pending. -/
theorem Orderly.pending_of_recorded (h : Orderly migrations) {n : Nat} {records : List Record}
    (hrecords : records.map (·.id) = (migrations.map (·.id)).take n) :
    Runner.pending records migrations = migrations.drop n := by
  have hall : Runner.pending [] migrations = migrations.take n ++ migrations.drop n := by
    rw [List.take_append_drop]
    exact List.filter_eq_self.mpr fun _ _ => rfl
  refine Runner.pending_of_recorded hall ?_ ?_
  · rw [List.take_append_drop]
    exact h.nodup
  · rw [hrecords, List.map_take]
    rfl

/-- **Reverting in the opposite order.** If migrations were applied to a store without records, then those that are
reverted are these, the last one first, and after all of them nothing. The records of the others remain. Without records
nothing changes, and what was reverted is applied again in the old order. -/
theorem downs_undo_up (j : Journal) (hj : Text.IsPlain j.table) {w w₁ w₂ : World Memory} {report : UpReport} {n : Nat}
    {ids : List (Option String)} (hempty : w.database.store.records = []) (hup : j.runner.up w = (.ok report, w₁))
    (hdowns : j.runner.downs n w₁ = (.ok ids, w₂)) :
    let applied := report.applied
    ids = (applied.reverse.take n).map some ++ List.replicate (n - applied.length) none ∧
      w₂.database.store.records.map (·.id) = applied.take (applied.length - n) ∧
      (applied.length ≤ n → ∀ id w₃, j.runner.down w₂ = (.ok id, w₃) →
        id = none ∧ w₃.database.store.contents = w₂.database.store.contents) ∧
      ∀ again w₃, j.runner.up w₂ = (.ok again, w₃) → again.applied = applied.drop (applied.length - n) := by
  intro applied
  obtain ⟨hf₁, migrations, hready, happlied, k₁, hreplay, hk₁⟩ := (holds_up hj).ok rfl ⟨rfl, rfl⟩ hup
  have hall : Runner.pending w.database.store.contents.records migrations = migrations := by
    show Runner.pending w.database.store.records migrations = migrations
    rw [hempty]
    exact List.filter_eq_self.mpr fun _ _ => rfl
  rw [hall] at happlied hreplay
  have horderly : Orderly migrations := orderly_of_replays hready.list hreplay
  have hstack : Stacks migrations w₁.database.store.contents := by
    have hempty' : w.database.store.contents.records = [] := hempty
    rw [hk₁.contents, Stacks, hreplay.facts, hempty']
    rfl
  obtain ⟨hf₂, hids, hleft⟩ := (holds_downs horderly n).ok hf₁ hstack hdowns
  have happlied : applied = migrations.map (·.id) := happlied
  have hlength : applied.length = migrations.length := by
    rw [happlied, List.length_map]
  have hrecords : w₂.database.store.records.map (·.id) = applied.take (applied.length - n) := by
    show w₂.database.store.contents.records.map (·.id) = _
    rw [← Record.map_id_facts, hleft, Migration.map_id_facts, hlength, List.map_take, happlied]
  refine ⟨by rw [hlength, happlied]; exact hids, hrecords, fun hn id w₃ hdown => ?_, fun again w₃ hagain => ?_⟩
  · have hnone : w₂.database.store.contents.records = [] := by
      rw [show applied.length - n = 0 by omega, List.take_zero] at hrecords
      exact List.map_eq_nil_iff.mp hrecords
    obtain ⟨-, hid, hk⟩ := (holds_down_nil (j := j) hnone).ok hf₂ ⟨rfl, rfl⟩ hdown
    exact ⟨hid, hk.contents⟩
  · obtain ⟨-, migrations', hready', hagain', -⟩ := (holds_up hj).ok hf₂ ⟨rfl, rfl⟩ hagain
    cases hready.list.symm.trans hready'.list
    have hpending : Runner.pending w₂.database.store.contents.records migrations =
        migrations.drop (applied.length - n) :=
      horderly.pending_of_recorded (hrecords.trans (by rw [happlied]))
    rw [hagain', hpending, List.map_drop, happlied]

/-- A migration that creates a table and drops it again. -/
def creating (time : Int64) (table : String) : Migration :=
  .new table time ["CREATE TABLE " ++ table ++ " ()"] ["DROP TABLE IF EXISTS " ++ table]

/-- An empty database, and a journal with two migrations of one time and one from before 1970. The directory has the
latest document first. -/
def tied : World Memory where
  files := ⟨[(["migrations"], .directory),
    (["7_c.json", "migrations"],
      .file "[\"7_c\",\"c\",7,[\"CREATE TABLE c ()\"],[\"DROP TABLE IF EXISTS c\"]]".toUTF8),
    (["-5_a.json", "migrations"],
      .file "[\"-5_a\",\"a\",-5,[\"CREATE TABLE a ()\"],[\"DROP TABLE IF EXISTS a\"]]".toUTF8),
    (["7_b.json", "migrations"],
      .file "[\"7_b\",\"b\",7,[\"CREATE TABLE b ()\"],[\"DROP TABLE IF EXISTS b\"]]".toUTF8)], by decide, []⟩
  database := .empty
  events := []
  clock := 0

theorem list_tied : Journal.standard.list tied.files = .ok [creating (-5) "a", creating 7 "b", creating 7 "c"] := by
  have hnames : tied.files.list Journal.standard.directory = .ok ["7_c.json", "-5_a.json", "7_b.json"] :=
    Attempt.eq_ok_of_toOption (by decide +kernel)
  have hread : (Journal.standard.documents tied.files ["7_c.json", "-5_a.json", "7_b.json"]).mapM
      (Journal.load tied.files) = .ok [creating 7 "c", creating (-5) "a", creating 7 "b"] :=
    Attempt.eq_ok_of_toOption (by decide +kernel)
  have hsort : [creating 7 "c", creating (-5) "a", creating 7 "b"].mergeSort Migration.before =
      [creating (-5) "a", creating 7 "b", creating 7 "c"] := by cbv
  rw [Journal.list_of_documents hnames hread, hsort]

/-- All of it is applied. -/
theorem up_tied : ∃ report w, Journal.standard.runner.up tied = (.ok report, w) ∧ w.files = tied.files ∧
    report.applied = ["-5_a", "7_b", "7_c"] ∧
    Stacks [creating (-5) "a", creating 7 "b", creating 7 "c"] w.database.store.contents ∧
    w.database.store.failing = [] ∧ w.database.store.tables = ["a", "b", "c"] := by
  have hchanges : changes ([creating (-5) "a", creating 7 "b", creating 7 "c"].flatMap (·.up)) [] =
      .ok ["a", "b", "c"] := Attempt.eq_ok_of_toOption (by decide +kernel)
  obtain ⟨k, hreplay, htables⟩ := exists_replays (j := .standard) (k := tied.database.store.contents) hchanges
    (by decide +kernel) nofun
  obtain ⟨report, w, hup, hf, happlied, k', hreplay', hk⟩ :=
    (holds_up_of_replays (k := tied.database.store.contents) (by decide) list_tied hreplay).exists_ok rfl ⟨rfl, rfl⟩
  refine ⟨report, w, hup, hf, happlied, ?_, hk.failing, ?_⟩
  · rw [hk.contents]
    exact hreplay'.facts
  · exact ((congrArg Contents.tables hk.contents).trans (hreplay'.alike hreplay (.refl _)).tables).trans htables

/-- The greater one of two ids with the same time is reverted first. -/
theorem tied_downs_undo_up : ∃ report w₁ ids w₂, Text.IsPlain Journal.standard.table ∧
    tied.database.store.records = [] ∧ Journal.standard.runner.up tied = (.ok report, w₁) ∧
    Journal.standard.runner.downs 2 w₁ = (.ok ids, w₂) ∧ report.applied = ["-5_a", "7_b", "7_c"] ∧
    ids = [some "7_c", some "7_b"] ∧ w₂.database.store.records.map (·.id) = ["-5_a"] := by
  have hplain : Text.IsPlain Journal.standard.table := by decide
  let a := creating (-5) "a"
  let b := creating 7 "b"
  let c := creating 7 "c"
  obtain ⟨report, w₁, hup, hf₁, happlied, hstack, hfailing, htables⟩ := up_tied
  have hall : Orderly ([a, b] ++ [c]) := ⟨Journal.pairwise_list list_tied, by decide +kernel,
    fun _ => Journal.isStem_of_list list_tied⟩
  have hfirst : Orderly ([a] ++ [b]) := hall.initial (List.prefix_append _ _)
  have hfind : ∀ u ∈ [b, c], Journal.standard.find tied.files u.id = .ok (some u) := by
    intro u hu
    refine Attempt.eq_ok_of_toOption ?_
    revert u
    decide +kernel
  have hb : Ensures tied.files (fun m => Stacks [a, b] m.store.contents ∧ m.store.failing = [] ∧
      m.store.tables = ["a", "b"]) Journal.standard.runner.down _ fun _ _ => False :=
    holds_down_top hfirst (hfind b (by simp)) (show changes b.down ["a", "b"] = .ok ["a"] from rfl)
  have hc : Ensures tied.files (fun m => Stacks [a, b, c] m.store.contents ∧ m.store.failing = [] ∧
      m.store.tables = ["a", "b", "c"]) Journal.standard.runner.down _ fun _ _ => False :=
    holds_down_top hall (hfind c (by simp)) (show changes c.down ["a", "b", "c"] = .ok ["a", "b"] from rfl)
  have hdowns : Ensures tied.files _ (Journal.standard.runner.downs 2) (fun _ _ => True) fun _ _ => False :=
    Ensures.bind (Ensures.bind Ensures.keep fun _ => Ensures.bind hc fun _ => Ensures.pure fun _ h => h.2) fun _ =>
      Ensures.bind hb fun _ => Ensures.pure fun _ _ => trivial
  obtain ⟨ids, w₂, hrun, -, -⟩ := hdowns.exists_ok hf₁ ⟨hstack, hfailing, htables⟩
  obtain ⟨hids, hrecords, -⟩ := downs_undo_up .standard hplain rfl hup hrun
  rw [happlied] at hids hrecords
  exact ⟨report, w₁, ids, w₂, hplain, rfl, hup, hrun, happlied, hids, hrecords⟩

end SchemaJournal
