import SchemaJournal.Proofs.Journal.Listing
import SchemaJournal.Proofs.Runner.Contents

/-!
# Lookups

A journal that can be listed finds exactly what it lists: under the stem of a name it finds the migration of the listing
with this id, and no migration if there is none (`find_eq_some_iff_of_list`, `find_eq_none_iff_of_list`). Applying
records listed migrations only (`extends_up`), so each of them is found when it is to be reverted, as long as its
document stays (`getsTo_of_find`). All of this is `find_matches_list`.
-/

namespace SchemaJournal.Journal

open Database Database.Store FileTree World

variable {j : Journal} {files later : FileTree} {here : Location} {id : String} {m : Migration}
  {migrations : List Migration}

/-! ## Finding what is listed -/

/-- What is found is what is read from the document with the id. -/
theorem find_eq_some_iff : j.find files id = .ok (some m) ↔
    files.isFile (j.path id) = true ∧ load files (j.path id) = .ok m := by
  unfold find
  by_cases hfile : files.isFile (j.path id) = true
  · rw [if_pos hfile]
    cases hload : load files (j.path id) with
    | error e => exact ⟨nofun, fun h => nomatch h.2⟩
    | ok m' =>
      constructor
      · intro h
        cases h
        exact ⟨hfile, rfl⟩
      · rintro ⟨-, h⟩
        cases h
        rfl
  · rw [if_neg hfile]
    exact ⟨nofun, fun h => absurd h.1 hfile⟩

/-- Nothing is found where there is no document with the id. -/
theorem find_eq_none_iff : j.find files id = .ok none ↔ files.isFile (j.path id) = false := by
  unfold find
  by_cases hfile : files.isFile (j.path id) = true
  · rw [if_pos hfile, hfile]
    cases load files (j.path id) with
    | error e => exact ⟨nofun, nofun⟩
    | ok m' => exact ⟨nofun, nofun⟩
  · rw [if_neg hfile]
    exact ⟨fun _ => eq_false_of_ne_true hfile, fun _ => rfl⟩

/-- Where the directory is missing, nothing is found. -/
theorem find_of_missing (hne : j.directory.text ≠ "") (hmissing : files.list j.directory = .error .notFound)
    (hid : Path.IsStem id) : j.find files id = .ok none := by
  refine find_eq_none_iff.mpr (eq_false_of_ne_true fun hfile => ?_)
  obtain ⟨l, content, hlocate⟩ := isFile_iff.mp hfile
  obtain ⟨here, hdirectory⟩ := locate_of_join hne (Path.isName_document hid) hlocate
  cases hmissing.symm.trans (list_of_locate hdirectory)

/-- A file with the path of a stem is a document whose path is followed. -/
theorem isFile_path_iff (hdirectory : files.locate j.directory = .ok (here, .directory)) (hid : Path.IsStem id) :
    files.isFile (j.path id) = true ↔ ∃ content, HasDocument files here id content ∧ j.Admits id := by
  have hname := Path.isName_document hid
  rw [isFile_iff]
  constructor
  · rintro ⟨l, content, hlocate⟩
    obtain ⟨rfl, hthere⟩ := locate_join_ok hdirectory hname hlocate
    exact ⟨content, ⟨hid, hthere⟩, (locate_join_iff hdirectory hname hthere).mp hlocate⟩
  · rintro ⟨content, ⟨-, hthere⟩, hadmits⟩
    exact ⟨_, content, (locate_join_iff hdirectory hname hthere).mpr hadmits⟩

section Listed

variable (hne : j.directory.text ≠ "") (hfiles : files.WellFormed) (hlist : j.list files = .ok migrations)
  (hid : Path.IsStem id)
include hne hfiles hlist hid

/-- Under a stem, the listed migration with this id is found. -/
theorem find_eq_some_iff_of_list : j.find files id = .ok (some m) ↔ m ∈ migrations ∧ m.id = id := by
  rcases list_cases hlist with ⟨hmissing, rfl⟩ | ⟨names, -, hnames, -, -⟩
  · rw [find_of_missing hne hmissing hid]
    simp
  obtain ⟨here, hdirectory, -⟩ := list_ok hnames
  rw [find_eq_some_iff, isFile_path_iff hdirectory hid]
  constructor
  · rintro ⟨⟨content, hdocument, hadmits⟩, hload⟩
    obtain ⟨hdescribes, rfl⟩ := (load_document_iff hdirectory hdocument hadmits).mp hload
    exact ⟨(mem_list_iff hfiles hdirectory hlist).mpr ⟨content, hdocument, hadmits, hdescribes⟩, rfl⟩
  · rintro ⟨hm, rfl⟩
    obtain ⟨content, hdocument, hadmits, hdescribes⟩ := (mem_list_iff hfiles hdirectory hlist).mp hm
    exact ⟨⟨content, hdocument, hadmits⟩, (load_document_iff hdirectory hdocument hadmits).mpr ⟨hdescribes, rfl⟩⟩

/-- Under a stem, nothing is found if and only if no listed migration has this id. -/
theorem find_eq_none_iff_of_list : j.find files id = .ok none ↔ ∀ m ∈ migrations, m.id ≠ id := by
  constructor
  · intro hnone m hm heq
    cases hnone.symm.trans ((find_eq_some_iff_of_list hne hfiles hlist hid).mpr ⟨hm, heq⟩)
  intro h
  rcases list_cases hlist with ⟨hmissing, rfl⟩ | ⟨names, -, hnames, -, -⟩
  · exact find_of_missing hne hmissing hid
  obtain ⟨here, hdirectory, -⟩ := list_ok hnames
  refine find_eq_none_iff.mpr (eq_false_of_ne_true fun hfile => ?_)
  -- A document under the id would have been read for the listing.
  obtain ⟨content, hdocument, hadmits⟩ := (isFile_path_iff hdirectory hid).mp hfile
  obtain ⟨m, hdescribes, rfl⟩ :=
    (exists_list_iff hfiles hdirectory).mp ⟨migrations, hlist⟩ id content hdocument hadmits
  exact h m ((mem_list_iff hfiles hdirectory hlist).mpr ⟨content, hdocument, hadmits, hdescribes⟩) rfl

end Listed

/-- What is listed has different ids. -/
theorem nodup_of_list (hfiles : files.WellFormed) (hlist : j.list files = .ok migrations) :
    (migrations.map (·.id)).Nodup := by
  rcases list_cases hlist with ⟨-, rfl⟩ | ⟨names, -, hnames, -, -⟩
  · exact List.nodup_nil
  · obtain ⟨here, hdirectory, -⟩ := list_ok hnames
    exact (strict_of_list hfiles hdirectory hlist).1

/-- A document that stays is found as before. -/
theorem find_of_stays (hfind : j.find files id = .ok (some m))
    (hstays : later.readText (j.path id) = files.readText (j.path id)) : j.find later id = .ok (some m) := by
  obtain ⟨-, hload⟩ := find_eq_some_iff.mp hfind
  have hsame : load later (j.path id) = load files (j.path id) := by rw [load, load, hstays]
  refine find_eq_some_iff.mpr ⟨?_, hsame.trans hload⟩
  cases htext : files.readText (j.path id) with
  | error e =>
    rw [load, htext] at hload
    cases hload
  | ok text => exact isFile_of_readText (hstays.trans htext)

/-! ## What is recorded -/

/-- Records are added, each of one of the migrations. -/
def Extends (migrations : List Migration) (before after : List Record) : Prop :=
  ∃ new, after = before ++ new ∧ ∀ r ∈ new, ∃ m ∈ migrations, r.facts = m.facts

theorem Extends.snoc {before after : List Record} {r : Record} (h : Extends migrations before after)
    (hm : m ∈ migrations) (hr : r.facts = m.facts) : Extends migrations before (after ++ [r]) := by
  obtain ⟨new, rfl, hnew⟩ := h
  refine ⟨new ++ [r], List.append_assoc _ _ _, fun x hx => ?_⟩
  rcases List.mem_append.mp hx with hx | hx
  · exact hnew x hx
  · rw [List.mem_singleton.mp hx]
    exact ⟨m, hm, hr⟩

/-- Applying what is pending records listed migrations only, also if it fails. -/
theorem extends_up (hlist : j.list files = .ok migrations) {w : World Memory} (hw : w.files = files) :
    Extends migrations w.database.store.records (j.runner.up w).2.database.store.records := by
  let law : List (List Prepared) → Contents → Prop := fun _ k => Extends migrations w.database.store.records k.records
  have hkept : ∀ listed, j.list files = .ok listed → ∀ m ∈ listed, ∀ done k k', law done k →
      Takes (j.upScript m) k k' → law (done ++ [j.upScript m]) k' := by
    intro listed hlisted m hm done k k' hk htakes
    cases hlist.symm.trans hlisted
    obtain ⟨tables, moment, -, -, rfl⟩ := takes_up htakes
    exact hk.snoc hm rfl
  have hstart : Rests law w.database.store.failing w.database.store.contents [] ⟨w.database, []⟩ :=
    rests_blank w.database ⟨[], (List.append_nil _).symm, nofun⟩
  have hextends : ∀ t, (∃ k done, Rests law w.database.store.failing k done t) →
      Extends migrations w.database.store.records t.database.store.records := by
    rintro t ⟨k, done, ht⟩
    have hrecords : t.database.store.records = k.records := congrArg Contents.records ht.contents
    exact hrecords ▸ ht.lawful
  have hup : Ensures files (fun m => Rests law w.database.store.failing w.database.store.contents [] ⟨m, []⟩)
      j.runner.up (fun _ m => Extends migrations w.database.store.records m.store.records)
      fun _ m => Extends migrations w.database.store.records m.store.records := by
    refine (j.runner.mirrors_up.ensures (rests_up j hkept)).mono ?_ ?_
    · rintro _ _ ⟨t, rfl, ht⟩
      exact hextends t ht
    · rintro _ _ ⟨t, rfl, ht⟩
      exact hextends t ht
  exact Ensures.either hup hw hstart

/-! ## Reverting what is found -/

/-- Reverting gets to a migration: the migration is reverted, or a statement before is refused, or its unit fails. -/
def GetsTo (j : Journal) (m : Migration) (w : World Memory) : Prop :=
  match (j.runner.down w).1 with
  | .ok id => id = some m.id
  | .error e => Refuses w.database.store.failing (Tracking.createSql j.table) ∨
      Refuses w.database.store.failing (Tracking.latestSql j.table) ∨
      UnitFails w.database.store.failing m (j.downScript m) w.database.store.contents e

/-- Reverting gets to the migration that is found for the latest record. -/
theorem getsTo_of_find {w : World Memory} {x : Record} (hx : IsLatest w.database.store.records x)
    (hfind : j.find w.files x.id = .ok (some m)) : j.GetsTo m w := by
  have hid : ∀ {y}, IsLatest w.database.store.records y → y.id = x.id := fun hy =>
    congrArg Prod.snd ((hx.2 _ hy.1).antisymm (hy.2 _ hx.1))
  have hfound : ∀ {y found}, IsLatest w.database.store.records y → j.find w.files y.id = .ok found →
      found = some m := fun hy hf => Except.ok.inj (hf.symm.trans (hid hy ▸ hfind))
  have hensures : Ensures w.files (Holds w.database.store.failing w.database.store.contents) j.runner.down _ _ :=
    holds_down
  obtain ⟨-, hdown⟩ := hensures w rfl ⟨rfl, rfl⟩
  unfold GetsTo
  cases hres : (j.runner.down w).1 with
  | ok id =>
    rw [hres] at hdown
    rcases hdown with ⟨hnone, -, -⟩ | ⟨y, u, k', hy, hu, rfl, -, -⟩
    · exact absurd hnone hx.ne_nil
    · cases hfound hy hu
      rfl
  | error e =>
    rw [hres] at hdown
    obtain ⟨hfails, -⟩ := hdown
    cases hfails with
    | creation hr => exact .inl hr
    | query hr => exact .inr (.inl hr)
    | unreadable hy hf => cases hf.symm.trans (hid hy ▸ hfind)
    | missing hy hf => cases hfound hy hf
    | unit hy hf hu =>
      cases hfound hy hf
      exact .inr (.inr hu)

/-- **Lookups.** A journal that can be listed finds, under every stem of a name, the listed migration with this id, and
none if there is none; it never finds a migration with another id. What is applied records listed migrations, and as
long as the document of such a record stays, its migration is found, and reverting gets to it. -/
theorem find_matches_list (hne : j.directory.text ≠ "") (hfiles : files.WellFormed)
    (hlist : j.list files = .ok migrations) :
    (migrations.map (·.id)).Nodup ∧
    (∀ id, Path.IsStem id →
      (∀ m, j.find files id = .ok (some m) ↔ m ∈ migrations ∧ m.id = id) ∧
      (j.find files id = .ok none ↔ ∀ m ∈ migrations, m.id ≠ id) ∧
      ∀ later m, j.find later id = .ok (some m) → m.id = id) ∧
    ∀ w : World Memory, w.files = files → ∃ new,
      (j.runner.up w).2.database.store.records = w.database.store.records ++ new ∧
      ∀ r ∈ new, ∃ m ∈ migrations, r.facts = m.facts ∧
        ∀ later : World Memory, later.files.readText (j.path r.id) = files.readText (j.path r.id) →
          j.find later.files r.id = .ok (some m) ∧
          ∀ x, IsLatest later.database.store.records x → x.id = r.id → j.GetsTo m later := by
  refine ⟨nodup_of_list hfiles hlist, fun id hid => ⟨fun m => find_eq_some_iff_of_list hne hfiles hlist hid,
    find_eq_none_iff_of_list hne hfiles hlist hid, fun later m => id_of_find hid⟩, fun w hw => ?_⟩
  obtain ⟨new, hnew, hfacts⟩ := extends_up hlist hw
  refine ⟨new, hnew, fun r hr => ?_⟩
  obtain ⟨m, hm, heq⟩ := hfacts r hr
  refine ⟨m, hm, heq, fun later hstays => ?_⟩
  have hid : r.id = m.id := congrArg Prod.fst heq
  have hfind : j.find files r.id = .ok (some m) :=
    (find_eq_some_iff_of_list hne hfiles hlist (hid ▸ isStem_of_list hlist hm)).mpr ⟨hm, hid.symm⟩
  have hlater := find_of_stays hfind hstays
  exact ⟨hlater, fun x hx hxr => getsTo_of_find hx (hxr ▸ hlater)⟩

/-- Of the two documents, each is found under its id; a directory with the name of a document is not one, and neither is
anything found under the name of a document. -/
theorem mixed_find_matches_list : standard.directory.text ≠ "" ∧ mixed.WellFormed ∧
    standard.list mixed = .ok [.new "a" 1 [] [], .new "b" 2 [] []] ∧
    standard.find mixed "2_b" = .ok (some (.new "b" 2 [] [])) ∧ standard.find mixed "0_z" = .ok none ∧
    standard.find mixed "1_a.json" = .ok none := by
  have hmixed : mixed.WellFormed := by decide +kernel
  obtain ⟨-, hfind, -⟩ := find_matches_list (by decide) hmixed list_mixed
  refine ⟨by decide, hmixed, list_mixed, ?_, ?_, ?_⟩
  · exact ((hfind "2_b" (by unfold Path.IsStem; decide)).1 _).mpr ⟨by decide, by decide⟩
  · exact (hfind "0_z" (by unfold Path.IsStem; decide)).2.1.mpr (by decide)
  · exact (hfind "1_a.json" (by unfold Path.IsStem; decide)).2.1.mpr (by decide)

end SchemaJournal.Journal
