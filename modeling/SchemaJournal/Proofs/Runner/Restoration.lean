import SchemaJournal.Proofs.Journal.Saved
import SchemaJournal.Proofs.Order.Complete
import SchemaJournal.Proofs.Runner.Contents
import SchemaJournal.Proofs.Store.Tables

/-!
# Restoring what was there before

A migration of tables that alone is pending and is later than all records is applied (`holds_up_only`). Then it has the
latest record, so that it is the one that is reverted, and this gives back the tables and records that were there before
(`up_down_restores`).
-/

namespace SchemaJournal

open Database Database.Store World

variable {j : Journal} {files : FileTree} {k : Contents} {migrations : List Migration} {m : Migration}
  {records : List Record} {tables : List String}

/-- A saved migration is what is pending if nothing but its id is. -/
theorem Runner.pending_eq_singleton (hid : Path.IsStem m.id) (hsaved : j.Saved m files)
    (hlist : j.list files = .ok migrations) (hpending : (pending records migrations).map (·.id) = [m.id]) :
    pending records migrations = [m] := by
  obtain ⟨u, hu, hum⟩ := List.map_eq_singleton_iff.mp hpending
  have hu' : u ∈ pending records migrations := by
    rw [hu]
    exact List.mem_singleton_self u
  obtain ⟨hmem, hnew⟩ := List.mem_filter.mp hu'
  have hm : m ∈ migrations := hsaved.mem_list hid hlist (List.ne_nil_of_mem hmem)
  have hm' : m ∈ pending records migrations := List.mem_filter.mpr ⟨hm, hum ▸ hnew⟩
  rw [hu] at hm' ⊢
  rw [List.mem_singleton.mp hm']

/-- No record has the id of what is pending. -/
theorem Runner.id_ne_of_mem_pending (h : m ∈ pending records migrations) : ∀ r ∈ records, r.id ≠ m.id := by
  intro r hr hid
  have hnew := (List.mem_filter.mp h).2
  simp only [Bool.not_eq_true', List.any_eq_false, beq_iff_eq] at hnew
  exact hnew r hr hid

/-- Applying a migration that alone is pending changes the tables by its statements and adds its record. -/
theorem holds_up_only (hj : Text.IsPlain j.table) (hlist : j.list files = .ok migrations)
    (hpending : Runner.pending k.records migrations = [m]) (hup : changes m.up k.tables = .ok tables) :
    Ensures files (Holds [] k) j.runner.up
      (fun report s => report.applied = [m.id] ∧ s.store.failing = [] ∧ s.store.tables = tables ∧
        ∃ moment, s.store.records = k.records ++ [⟨m.id, m.name, m.timestamp, moment⟩])
      fun _ _ => False := by
  have hnew : ∀ u ∈ [m], ∀ r ∈ k.records, r.id ≠ u.id := by
    rw [← hpending]
    exact fun u => Runner.id_ne_of_mem_pending
  have hup' : changes ([m].flatMap (·.up)) k.tables = .ok tables := by simpa using hup
  obtain ⟨_, hreplay, -⟩ := exists_replays (j := j) hup' (List.nodup_singleton _) hnew
  refine (holds_up_of_replays hj hlist (hpending.symm ▸ hreplay)).mono ?_ fun _ _ h => h
  rw [hpending]
  rintro report s ⟨happlied, k', hreplay', hs⟩
  cases hreplay' with
  | cons htakes hnil =>
    cases hnil
    obtain ⟨tables', moment, hup', -, rfl⟩ := takes_up htakes
    cases hup.symm.trans hup'
    exact ⟨happlied, hs.failing, congrArg Contents.tables hs.contents, moment, congrArg Contents.records hs.contents⟩

/-- **Restoring what was there before.** If the saved migration of tables alone is pending, the database has none of the
tables, and all records are earlier, then applying it adds the tables in the order of their references and its record.
Reverting after that gives back the tables and records as they were. -/
theorem up_down_restores (j : Journal) (hj : Text.IsPlain j.table) {name : String} {declared : List Table}
    {timestamp : Int64} (hnames : (declared.map (·.name)).Nodup) (hplain : ∀ t ∈ declared, Text.IsPlain t.name)
    (hbuild : Migration.build name declared timestamp = .ok m) {w : World Memory}
    (hfailing : w.database.store.failing = []) (hfree : ∀ t ∈ declared, t.name ∉ w.database.store.tables)
    (hearlier : ∀ r ∈ w.database.store.records, r.stamp.Lt m.stamp) (hsaved : j.Saved m w.files)
    (hlist : j.list w.files = .ok migrations)
    (hpending : (Runner.pending w.database.store.records migrations).map (·.id) = [m.id]) :
    ∃ ordered report w₁ w₂ moment, order declared = .ok ordered ∧ Order.Orders declared ordered ∧
      j.runner.up w = (.ok report, w₁) ∧ report.applied = [m.id] ∧
      w₁.database.store.tables = w.database.store.tables ++ ordered.map (·.name) ∧
      w₁.database.store.records = w.database.store.records ++ [⟨m.id, m.name, m.timestamp, moment⟩] ∧
      j.runner.down w₁ = (.ok (some m.id), w₂) ∧ w₂.database.store.tables = w.database.store.tables ∧
      w₂.database.store.records = w.database.store.records := by
  have hid : Path.IsStem m.id := by
    obtain ⟨hname, ordered, -, rfl⟩ := build_eq_ok hbuild
    exact Migration.isStem_idOf hname timestamp
  obtain ⟨ordered, horder, hup, hdown⟩ := changes_build hnames hplain hfree hbuild
  have hall : Runner.pending w.database.store.records migrations = [m] :=
    Runner.pending_eq_singleton hid hsaved hlist hpending
  obtain ⟨report, w₁, hrun, hf, happlied, hfailing₁, htables, moment, hrecords⟩ :=
    (holds_up_only (k := w.database.store.contents) hj hlist hall hup).exists_ok rfl ⟨rfl, hfailing⟩
  have hm : m ∈ Runner.pending w.database.store.records migrations := by simp [hall]
  have hnew : ∀ r ∈ w.database.store.records, r.id ≠ m.id := Runner.id_ne_of_mem_pending hm
  have hdown₁ : changes m.down w₁.database.store.contents.tables = .ok w.database.store.tables := by
    rw [← hdown]
    exact congrArg (changes m.down) htables
  have hlatest : ∀ x, IsLatest w₁.database.store.contents.records x → x = ⟨m.id, m.name, m.timestamp, moment⟩ := by
    intro x hx
    rw [show w₁.database.store.contents.records = _ from hrecords] at hx
    exact hx.eq_of_snoc fun y hy => (hearlier y hy).not_le
  obtain ⟨id, w₂, hrun', -, rfl, -, htables', hrecords'⟩ :=
    (holds_down_last hrecords rfl hlatest hnew (hsaved.find hid) hdown₁).exists_ok hf ⟨rfl, hfailing₁⟩
  exact ⟨ordered, report, w₁, w₂, moment, horder, Order.order_orders horder, hrun, happlied, htables, hrecords, hrun',
    htables', hrecords'⟩

/-- The migration of the diamond. -/
def diamondMigration : Migration :=
  let ordered := [referring "users" ["users"], referring "tags" ["users"], referring "posts" ["users"],
    referring "links" ["tags", "posts", "archive"]]
  .new "first" 1 ((Migration.upStatements ordered).map Ddl.Statement.text)
    ((Migration.downStatements ordered).map Ddl.Statement.text)

theorem build_diamond : Migration.build "first" diamond 1 = .ok diamondMigration := by
  unfold Migration.build
  rw [order_diamond]
  rfl

/-- A database with a table and the record of its migration, which has the time of the saved one and a smaller id. -/
def archived : World Memory where
  files := (Journal.standard.save diamondMigration (.bare [])).2
  database := ⟨{ Store.empty.seed "1_archive" "archive" 1 with tables := ["archive"] }, []⟩
  events := []
  clock := 0

theorem saved_archived : Journal.standard.Saved diamondMigration archived.files := by
  have hsave : (Journal.standard.save diamondMigration (.bare [])).1 = .ok ⟨"migrations/1_first.json"⟩ :=
    Attempt.eq_ok_of_toOption (by decide +kernel)
  exact ⟨.bare [], archived.files, ⟨"migrations/1_first.json"⟩, Prod.ext hsave rfl, rfl⟩

theorem list_archived : Journal.standard.list archived.files = .ok [diamondMigration] := by
  have hnames : archived.files.list Journal.standard.directory = .ok ["1_first.json"] :=
    Attempt.eq_ok_of_toOption (by decide +kernel)
  have hdocuments : Journal.standard.documents archived.files ["1_first.json"] =
      [Journal.standard.path diamondMigration.id] := by decide +kernel
  have hid : Path.IsStem diamondMigration.id := Migration.isStem_idOf (by decide +kernel) 1
  have hread : (Journal.standard.documents archived.files ["1_first.json"]).mapM (Journal.load archived.files) =
      .ok [diamondMigration] := by
    rw [hdocuments, List.mapM_cons, saved_archived.load hid]
    rfl
  rw [Journal.list_of_documents hnames hread, List.mergeSort_singleton]

/-- The table and the record that were there before are there again. -/
theorem archived_restores : ∃ report w₁ w₂, Text.IsPlain Journal.standard.table ∧
    Journal.standard.runner.up archived = (.ok report, w₁) ∧ report.applied = ["1_first"] ∧
    w₁.database.store.tables = ["archive", "users", "tags", "posts", "links"] ∧
    w₁.database.store.records.map Record.facts = [("1_archive", "archive", 1), ("1_first", "first", 1)] ∧
    Journal.standard.runner.down w₁ = (.ok (some "1_first"), w₂) ∧ w₂.database.store.tables = ["archive"] ∧
    w₂.database.store.records = archived.database.store.records := by
  have hplain : Text.IsPlain Journal.standard.table := by decide
  obtain ⟨ordered, report, w₁, w₂, moment, horder, -, hup, happlied, htables, hrecords, hdown, htables', hrecords'⟩ :=
    up_down_restores .standard hplain (by decide) (by decide) build_diamond (w := archived) rfl (by decide)
      (by unfold Stamp.Lt; decide +kernel) saved_archived list_archived (by decide +kernel)
  cases order_diamond.symm.trans horder
  refine ⟨report, w₁, w₂, hplain, hup, happlied, htables, ?_, hdown, htables', hrecords'⟩
  rw [hrecords]
  rfl

end SchemaJournal
