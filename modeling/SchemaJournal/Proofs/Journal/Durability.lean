import SchemaJournal.Proofs.Files.Directories
import SchemaJournal.Proofs.Journal.Chronology
import SchemaJournal.Proofs.Journal.Saved

/-!
# Durable migrations

A migration that is saved is found under its id and listed at its place in the order of times, and no other file changes
(`save_durable`). There is one condition: where the directory was missing, nothing was listed before; but the path of
the journal may lead out of the missing directories again, to one that was there already, and then all that is in this
one is listed from now on (`not_save_durable`). Only `..` leads out of a directory: a path without it goes down from the
first missing directory through missing ones, so the place of the journal is kept (`keepsPlace_of_save`).
-/

namespace SchemaJournal.Journal

open FileTree

variable {j : Journal} {m : Migration} {before made after : FileTree} {path : Path} {here : Location}

/-- All files of one tree are in another one with the same content, and it has no others. -/
def SameFiles (before after : FileTree) : Prop :=
  ∀ l content, after.lookup? l = some (.file content) ↔ before.lookup? l = some (.file content)

/-- The directory of the journal is the same before and after: if it was missing, its path does not lead to one that was
there. -/
def KeepsPlace (j : Journal) (before after : FileTree) : Prop :=
  ∀ here, after.locate j.directory = .ok (here, .directory) → before.lookup? here = some .directory →
    before.isDirectory j.directory = true

/-- A migration was saved, and after this it is found and listed. -/
structure Durable (j : Journal) (m : Migration) (before after : FileTree) (path : Path) : Prop where
  found : j.find after m.id = .ok (some m)
  /-- Among the migrations that were listed before, the new one is at its place. -/
  listed : ∀ migrations, j.list before = .ok migrations → j.KeepsPlace before after → ∃ earlier later,
    migrations = earlier ++ later ∧ j.list after = .ok (earlier ++ m :: later) ∧
      (∀ a ∈ earlier, a.stamp.Lt m.stamp) ∧ ∀ b ∈ later, m.stamp.Lt b.stamp
  /-- There is one new file, the document, and all others are as they were. -/
  files : ∃ l, before.lookup? l = none ∧ after.locate path = .ok (l, .file (document m).toUTF8) ∧
    ∀ k ≠ l, ∀ content, after.lookup? k = some (.file content) ↔ before.lookup? k = some (.file content)

/-! ## Saving in steps -/

theorem save_of_unmade {e : FileError} (h : createDirectories j.directory before = (.error e, made)) :
    j.save m before = (.error e.toError, made) := by
  have hmade : ((createDirectories j.directory).restate FileError.toError) before = (.error e.toError, made) := by
    rw [Attempt.restate, h]
    rfl
  exact Attempt.bind_error hmade _

/-- Once its directory is there, the document is created. -/
theorem save_of_made (h : createDirectories j.directory before = (.ok (), made)) :
    j.save m before = match made.create (j.path m.id) (document m).toUTF8 with
      | .ok after => (.ok (j.path m.id), after)
      | .error .alreadyExists => (.error (.duplicateMigration m.id), made)
      | .error e => (.error e.toError, made) := by
  have hmade : ((createDirectories j.directory).restate FileError.toError) before = (.ok (), made) := by
    rw [Attempt.restate, h]
    rfl
  unfold save
  rw [Attempt.bind_ok hmade, Attempt.bind_run, Attempt.restate, Attempt.updating]
  cases made.create (j.path m.id) (document m).toUTF8 with
  | ok after => rfl
  | error e => cases e <;> rfl

/-- The document of a migration was put where its path aims and where nothing was. -/
structure Puts (j : Journal) (m : Migration) (made after : FileTree) (l : Location) : Prop where
  missing : made.contains (j.path m.id) = false
  free : made.lookup? l = none
  eq_put : after = made.put l (.file (document m).toUTF8)
  located : after.locate (j.path m.id) = .ok (l, .file (document m).toUTF8)

namespace Puts

variable {l : Location}

theorem grows (h : j.Puts m made after l) : Grows made after := h.eq_put ▸ .put h.free _

theorem lookup? (h : j.Puts m made after l) (k : Location) :
    after.lookup? k = if k = l then some (.file (document m).toUTF8) else made.lookup? k := by
  have hne : l ≠ [] := by
    rintro rfl
    cases h.free
  rw [h.eq_put, lookup?_put made hne]

end Puts

/-- Saving makes directories. If it fails, it does nothing else; otherwise it puts the document into the tree. -/
theorem save_cases {result : Except Error Path} (h : j.save m before = (result, after)) :
    (∃ e unit, result = .error e ∧ createDirectories j.directory before = (unit, after)) ∨
      ∃ made, result = .ok (j.path m.id) ∧ createDirectories j.directory before = (.ok (), made) ∧
        j.Puts m made after (before.aim (j.path m.id)) := by
  rcases hmade : createDirectories j.directory before with ⟨error | ⟨⟩, made⟩
  · cases (save_of_unmade hmade).symm.trans h
    exact .inl ⟨_, _, rfl, rfl⟩
  · have hsave := (save_of_made hmade).symm.trans h
    split at hsave
    next after' hcreate =>
      cases hsave
      obtain ⟨parent, name, hd, hslash, hf, rfl⟩ := create_ok hcreate
      obtain ⟨hlong, hfree⟩ := find_ok hf
      have hgrows : Grows made (made.put (name :: parent) (.file (document m).toUTF8)) := .put hfree _
      have haim : before.aim (j.path m.id) = name :: parent :=
        (aim_congr (createDirectories_prepares hmade).workingDirectory_eq _).symm.trans (aim_of_named hd)
      rw [haim]
      refine .inr ⟨made, rfl, rfl, Bool.eq_false_iff.mpr fun hcontains => ?_, hfree, rfl, ?_⟩
      · cases hcreate.symm.trans ((create_alreadyExists_iff hslash).mpr hcontains)
      · refine locate_of_named (destination_mono hgrows.kept rfl hd) ?_ (.inl hslash)
        rw [FileTree.find, if_neg hlong, lookup?_put made (List.cons_ne_nil _ _), if_pos rfl]
    · cases hsave
      exact .inl ⟨_, _, rfl, rfl⟩
    · cases hsave
      exact .inl ⟨_, _, rfl, rfl⟩

/-- A failing save makes directories at most. -/
theorem prepares_of_save_error {e : Error} (h : j.save m before = (.error e, after)) : Prepares before after := by
  rcases save_cases h with ⟨e', unit, -, hmade⟩ | ⟨made, hresult, -⟩
  · exact createDirectories_prepares hmade
  · cases hresult

/-- A save that succeeds puts the document into the directory, where nothing stood under its name. -/
theorem exists_of_save_ok (hid : Path.IsStem m.id) (hdirectory : j.directory.text ≠ "")
    (h : j.save m before = (.ok path, after)) : ∃ made here, createDirectories j.directory before = (.ok (), made) ∧
      made.locate j.directory = .ok (here, .directory) ∧ made.lookup? ((m.id ++ ".json") :: here) = none ∧
      after = made.put ((m.id ++ ".json") :: here) (.file (document m).toUTF8) ∧
      after.locate path = .ok ((m.id ++ ".json") :: here, .file (document m).toUTF8) := by
  rcases save_cases h with ⟨e, unit, he, -⟩ | ⟨made, hresult, hmade, hputs⟩
  · cases he
  · cases hresult
    obtain ⟨here, hlocate⟩ := createDirectories_ok hdirectory hmade
    have haim : before.aim (j.path m.id) = (m.id ++ ".json") :: here := by
      rw [Journal.path, aim_join before j.directory (Path.isName_document hid), eq_aim_of_locate hlocate,
        aim_congr (createDirectories_prepares hmade).workingDirectory_eq]
    rw [haim] at hputs
    exact ⟨made, here, hmade, hlocate, hputs.free, hputs.eq_put, hputs.located⟩

/-! ## Listing after saving -/

theorem isDocument_congr (h : after.locate path = before.locate path) :
    isDocument after path = isDocument before path := by
  simp only [isDocument, isFile, h]

theorem load_congr (h : after.locate path = before.locate path) : load after path = load before path := by
  simp only [load, readText, FileTree.read, h]

/-- Migrations that are read from the documents of a directory have different ids. -/
theorem nodup_ids {names : List String} {read : List Migration} (hnames : ∀ name ∈ names, Path.IsName name)
    (hnodup : names.Nodup) (hread : (j.documents before names).mapM (load before) = .ok read) :
    (read.map (·.id)).Nodup := by
  rw [ids_of_mapM hread, documents, List.filter_map, List.map_map]
  refine List.Nodup.map_on (fun name hname name' hname' hstem => ?_) (hnodup.filter _)
  obtain ⟨hmem, hdocument⟩ := List.mem_filter.mp hname
  obtain ⟨hmem', hdocument'⟩ := List.mem_filter.mp hname'
  have hnamed : ∀ {name}, name ∈ names → isDocument before (j.directory.join name) = true →
      name = (j.directory.join name).stem ++ ".json" := fun hmem hdocument =>
    Path.eq_of_extension? (hnames _ hmem) (beq_iff_eq.mp (Bool.and_eq_true_iff.mp hdocument).2)
  rw [Function.comp_apply, Function.comp_apply] at hstem
  rw [hnamed hmem hdocument, hnamed hmem' hdocument', hstem]

/-- What is listed after a document was put into the directory. -/
theorem list_of_put (hid : Path.IsStem m.id) (hmade : made.WellFormed)
    (hlocate : made.locate j.directory = .ok (here, .directory))
    (hfree : made.lookup? ((m.id ++ ".json") :: here) = none)
    (hafter : after = made.put ((m.id ++ ".json") :: here) (.file (document m).toUTF8)) (hsaved : j.Saved m after)
    {read : List Migration} (hread : (j.documents made (made.children here)).mapM (load made) = .ok read) :
    j.list after = .ok ((read ++ [m]).mergeSort Migration.before) ∧ ((read ++ [m]).map (·.id)).Nodup := by
  have hname := Path.isName_document hid
  have hgrows : Grows made after := hafter ▸ .put hfree _
  have hlocate' := hgrows.locate hlocate
  have hwellFormed : after.WellFormed := hafter ▸ hmade.put (hmade.directory hlocate) hname hfree _
  have hchildren : after.children here = made.children here ++ [m.id ++ ".json"] := hafter ▸ children_put hfree _
  have hnames : ∀ name ∈ after.children here, Path.IsName name := by
    intro name hmem
    obtain ⟨e, he⟩ := mem_children_iff.mp hmem
    exact hwellFormed.isName he
  -- At the other documents nothing has changed.
  have hsame : ∀ name ∈ made.children here,
      after.locate (j.directory.join name) = made.locate (j.directory.join name) := by
    intro name hmem
    obtain ⟨e, he⟩ := mem_children_iff.mp hmem
    exact locate_join_congr hlocate hlocate' (hmade.isName he) ((hgrows.kept he).trans he.symm)
  have hdocuments :
      j.documents after (after.children here) = j.documents made (made.children here) ++ [j.path m.id] := by
    have hothers : j.documents after (made.children here) = j.documents made (made.children here) := by
      refine List.filter_congr fun path hpath => ?_
      obtain ⟨name, hmem, rfl⟩ := List.mem_map.mp hpath
      exact isDocument_congr (hsame name hmem)
    have hdocument : isDocument after (j.path m.id) = true := by
      have hextension : (j.path m.id).extension? = some "json" := Path.extension?_join j.directory hid
      rw [isDocument, hsaved.isFile, hextension]
      rfl
    have hlast : j.documents after [m.id ++ ".json"] = [j.path m.id] := List.filter_cons_of_pos hdocument
    rw [hchildren, ← hothers, ← hlast, documents, List.map_append, List.filter_append]
    rfl
  have hread' : (j.documents after (after.children here)).mapM (load after) = .ok (read ++ [m]) := by
    have hothers : (j.documents made (made.children here)).map (load after) = read.map .ok := by
      rw [← map_of_mapM_ok hread]
      refine List.map_congr_left fun path hpath => ?_
      obtain ⟨name, hmem, rfl⟩ := List.mem_map.mp (List.mem_filter.mp hpath).1
      exact load_congr (hsame name hmem)
    refine mapM_of_map_ok ?_
    rw [hdocuments, List.map_append, List.map_append, hothers, List.map_singleton, hsaved.load hid]
    rfl
  exact ⟨list_of_documents (list_of_locate hlocate') hread', nodup_ids hnames (nodup_children after here) hread'⟩

/-- What was listed before saving is what is read from the directory once it is there. -/
theorem exists_read {migrations : List Migration} (hbefore : before.WellFormed)
    (hmade : createDirectories j.directory before = (.ok (), made))
    (hlocate : made.locate j.directory = .ok (here, .directory))
    (hplace : before.lookup? here = some .directory → before.isDirectory j.directory = true)
    (hlist : j.list before = .ok migrations) :
    ∃ read, (j.documents made (made.children here)).mapM (load made) = .ok read ∧
      migrations = read.mergeSort Migration.before := by
  rcases list_cases hlist with ⟨hmissing, rfl⟩ | ⟨names, read, hnames, hread, rfl⟩
  · have hprepares := createDirectories_prepares hmade
    have hfree : before.lookup? here ≠ some .directory := by
      intro hdirectory
      obtain ⟨here', hlocate'⟩ := isDirectory_iff.mp (hplace hdirectory)
      cases hmissing.symm.trans (list_of_locate hlocate')
    -- A file in the directory was there before, and stood in it then.
    have hnone : j.documents made (made.children here) = [] := by
      refine List.filter_eq_nil_iff.mpr fun path hpath hdocument => ?_
      obtain ⟨name, hmem, rfl⟩ := List.mem_map.mp hpath
      obtain ⟨e, he⟩ := mem_children_iff.mp hmem
      have hname := (hprepares.wellFormed hbefore).isName he
      obtain ⟨l, content, hfile⟩ := isFile_iff.mp (Bool.and_eq_true_iff.mp hdocument).1
      exact hfree (hbefore.parent (hprepares.files (locate_join_ok hlocate hname hfile).2))
    exact ⟨[], by rw [hnone]; rfl, List.mergeSort_nil.symm⟩
  · obtain ⟨here', hlocate', rfl⟩ := list_ok hnames
    cases (createDirectories_of_locate hlocate').symm.trans hmade
    cases hlocate'.symm.trans hlocate
    exact ⟨read, hread, rfl⟩

/-- The place of a journal is kept if its path does not lead upwards. -/
theorem keepsPlace_of_save (hbefore : before.WellFormed) (hid : Path.IsStem m.id) (hdirectory : j.directory.text ≠ "")
    (hdots : ".." ∉ j.directory.names) (hsave : j.save m before = (.ok path, after)) : j.KeepsPlace before after := by
  obtain ⟨made, place, hmade, -, -, hafter, -⟩ := exists_of_save_ok hid hdirectory hsave
  intro here hlocate hthere
  have hworking : after.workingDirectory = before.workingDirectory :=
    hafter ▸ (createDirectories_prepares hmade).workingDirectory_eq
  have hstart : after.start j.directory = before.start j.directory := by rw [start, start, hworking]
  have hwalk := walk_of_locate hlocate
  rw [hstart] at hwalk
  obtain ⟨d, hd⟩ := exists_destination hlocate
  have hwalk' : before.walk (before.start j.directory) j.directory.names = .ok here :=
    walk_of_lookup? hbefore hdots hthere hwalk
  exact isDirectory_iff.mpr ⟨here, locate_of_walk (usable_of_destination hd) hwalk'⟩

/-! ## Results of saving -/

/-- If the path of the document leads to something, nothing is written. -/
theorem save_duplicate (hid : Path.IsStem m.id) (hmade : createDirectories j.directory before = (.ok (), made))
    (h : made.contains (j.path m.id) = true) : j.save m before = (.error (.duplicateMigration m.id), made) := by
  have hslash : (j.path m.id).endsInSlash = false := Path.endsInSlash_join j.directory (Path.isName_document hid)
  rw [save_of_made hmade, (create_alreadyExists_iff hslash).mpr h]

theorem save_durable_of_ok (hdirectory : j.directory.text ≠ "") (hid : Path.IsStem m.id) (hbefore : before.WellFormed)
    (hsave : j.save m before = (.ok path, after)) : j.Durable m before after path := by
  obtain ⟨made, here, hmade, hlocate, hfree, hafter, hpath⟩ := exists_of_save_ok hid hdirectory hsave
  have hprepares := createDirectories_prepares hmade
  have hsaved : j.Saved m after := ⟨before, after, path, hsave, rfl⟩
  refine ⟨hsaved.find hid, fun migrations hlist hplace => ?_, (m.id ++ ".json") :: here, ?_, hpath,
    fun k hk content => ?_⟩
  · have hgrows : Grows made after := hafter ▸ .put hfree _
    obtain ⟨read, hread, rfl⟩ := exists_read hbefore hmade hlocate (hplace here (hgrows.locate hlocate)) hlist
    obtain ⟨hlisted, hids⟩ := list_of_put hid (hprepares.wellFormed hbefore) hlocate hfree hafter hsaved hread
    have hstamps : ((read ++ [m]).map Migration.stamp).Nodup := by
      refine List.Nodup.of_map Prod.snd ?_
      rwa [List.map_map]
    obtain ⟨earlier, later, hsorted, hinserted, horder⟩ := Stamp.exists_insert Migration.before_iff hstamps
    exact ⟨earlier, later, hsorted, hlisted.trans (congrArg Except.ok hinserted), horder⟩
  · cases hfound : before.lookup? ((m.id ++ ".json") :: here) with
    | none => rfl
    | some e => cases (hprepares.kept hfound).symm.trans hfree
  · rw [hafter, lookup?_put made (List.cons_ne_nil _ _), if_neg hk]
    exact ⟨hprepares.files, hprepares.kept⟩

/-- **Saving.** A migration that is saved is found and listed from then on, and a path that does not lead upwards keeps
the place of the journal. A save that fails changes no file, and if there is something where the document should be, it
fails because of that. -/
theorem save_durable (j : Journal) (hdirectory : j.directory.text ≠ "") (hid : Path.IsStem m.id)
    (hbefore : before.WellFormed) :
    (∀ path after, j.save m before = (.ok path, after) →
      j.Durable m before after path ∧ (".." ∉ j.directory.names → j.KeepsPlace before after)) ∧
    (∀ e after, j.save m before = (.error e, after) → SameFiles before after) ∧
    (before.contains (j.path m.id) = true → j.save m before = (.error (.duplicateMigration m.id), before)) ∧
    ∀ made, createDirectories j.directory before = (.ok (), made) → made.contains (j.path m.id) = true →
      j.save m before = (.error (.duplicateMigration m.id), made) := by
  refine ⟨fun path after hsave => ⟨save_durable_of_ok hdirectory hid hbefore hsave, fun hdots =>
      keepsPlace_of_save hbefore hid hdirectory hdots hsave⟩,
    fun e after hsave l content => ⟨(prepares_of_save_error hsave).files, (prepares_of_save_error hsave).kept⟩,
    fun hcontains => ?_, fun made hmade => save_duplicate hid hmade⟩
  obtain ⟨l, e, hlocate⟩ := contains_iff.mp hcontains
  obtain ⟨here, hthere⟩ := locate_of_join hdirectory (Path.isName_document hid) hlocate
  exact save_duplicate hid (createDirectories_of_locate hthere) hcontains

/-! ## Journals -/

/-- A journal with two migrations. -/
def pair : FileTree :=
  ⟨[(["migrations"], .directory), (["3_c.json", "migrations"], .file "[\"3_c\",\"c\",3,[],[]]".toUTF8),
    (["1_a.json", "migrations"], .file "[\"1_a\",\"a\",1,[],[]]".toUTF8)], by decide, []⟩

/-- A migration between the two others in time is listed between them. -/
theorem pair_save_durable : ∃ path after, pair.WellFormed ∧ Path.IsStem (Migration.new "b" 2 ["x"] []).id ∧
    standard.save (.new "b" 2 ["x"] []) pair = (.ok path, after) ∧
    standard.Durable (.new "b" 2 ["x"] []) pair after path ∧
    standard.list after = .ok [.new "a" 1 [] [], .new "b" 2 ["x"] [], .new "c" 3 [] []] := by
  have hpair : pair.WellFormed := by decide +kernel
  have hid : Path.IsStem (Migration.new "b" 2 ["x"] []).id := by unfold Path.IsStem; decide +kernel
  have hread : (standard.documents pair ["3_c.json", "1_a.json"]).mapM (load pair) =
      .ok [.new "c" 3 [] [], .new "a" 1 [] []] := Attempt.eq_ok_of_toOption (by decide +kernel)
  have hsort : [Migration.new "c" 3 [] [], .new "a" 1 [] []].mergeSort Migration.before =
      [.new "a" 1 [] [], .new "c" 3 [] []] := by cbv
  have hlist : standard.list pair = .ok [.new "a" 1 [] [], .new "c" 3 [] []] := by
    rw [list_of_documents (Attempt.eq_ok_of_toOption (by decide +kernel)) hread, hsort]
  have hsave : (standard.save (.new "b" 2 ["x"] []) pair).1 = .ok ⟨"migrations/2_b.json"⟩ :=
    Attempt.eq_ok_of_toOption (by decide +kernel)
  obtain ⟨hdurable, hkeeps⟩ := (save_durable standard (by decide) hid hpair).1 _ _ (Prod.ext hsave rfl)
  obtain ⟨earlier, later, hsplit, hafter, hearlier, hlater⟩ := hdurable.listed _ hlist (hkeeps (by decide))
  refine ⟨_, _, hpair, hid, Prod.ext hsave rfl, hdurable, ?_⟩
  -- The first one is earlier than the new one, and the last one is later.
  rcases earlier with _ | ⟨first, _ | ⟨second, rest⟩⟩
  · obtain rfl : later = [_, _] := hsplit.symm
    exact absurd (hlater (.new "a" 1 [] []) (by simp)) (by unfold Stamp.Lt; decide +kernel)
  · obtain ⟨rfl, rfl⟩ := List.cons.inj hsplit
    exact hafter
  · obtain ⟨-, hsplit⟩ := List.cons.inj hsplit
    obtain ⟨rfl, -⟩ := List.cons.inj hsplit
    exact absurd (hearlier (.new "c" 3 [] []) (by simp)) (by unfold Stamp.Lt; decide +kernel)

/-- A directory with a migration; the one next to it is missing. -/
def aside : FileTree :=
  ⟨[(["b"], .directory), (["1_x.json", "b"], .file "[\"1_x\",\"x\",1,[],[]]".toUTF8)], by decide, []⟩

/-- A journal behind a directory that may be missing. -/
def outward : Journal := ⟨⟨"a/../b"⟩, "_migrations"⟩

/-- As soon as the missing directory is made, the path leads to what was there before. -/
theorem list_outward : outward.list aside = .ok [] ∧ ∃ path after, outward.save (.new "y" 2 [] []) aside =
    (.ok path, after) ∧ outward.list after = .ok [.new "x" 1 [] [], .new "y" 2 [] []] := by
  have hsave : (outward.save (.new "y" 2 [] []) aside).1 = .ok ⟨"a/../b/2_y.json"⟩ :=
    Attempt.eq_ok_of_toOption (by decide +kernel)
  refine ⟨Attempt.eq_ok_of_toOption (by decide +kernel), _, (outward.save (.new "y" 2 [] []) aside).2,
    Prod.ext hsave rfl, ?_⟩
  have hread : (outward.documents (outward.save (.new "y" 2 [] []) aside).2 ["1_x.json", "2_y.json"]).mapM
      (load (outward.save (.new "y" 2 [] []) aside).2) = .ok [.new "x" 1 [] [], .new "y" 2 [] []] :=
    Attempt.eq_ok_of_toOption (by decide +kernel)
  have hsort : [Migration.new "x" 1 [] [], .new "y" 2 [] []].mergeSort Migration.before =
      [.new "x" 1 [] [], .new "y" 2 [] []] := by cbv
  rw [list_of_documents (Attempt.eq_ok_of_toOption (by decide +kernel)) hread, hsort]

/-- A journal of which the path has many slashes. -/
def distant (n : Nat) : Journal := ⟨⟨"b" ++ String.ofList (List.replicate n '/')⟩, "_migrations"⟩

theorem distant_ne_empty (n : Nat) : (distant n).directory.text ≠ "" := by
  refine fun h => absurd (congrArg String.toList h) ?_
  simp [distant]

/-- The directory is found, and the path of a document in it is too long. -/
theorem locate_distant {files : FileTree} {n : Nat} (hthere : files.lookup? ["b"] = some .directory)
    (hworking : files.workingDirectory = []) (hlong : 4086 < n) (hshort : n < 4095) :
    files.locate (distant n).directory = .ok (["b"], .directory) ∧
      files.destination ((distant n).path "1_x") = .error .nameTooLong := by
  have hlist : (distant n).directory.text.toList = 'b' :: List.replicate n '/' := by simp [distant]
  have hsize : (distant n).directory.text.utf8ByteSize = n + 1 := by
    rw [distant, String.utf8ByteSize_append, Path.utf8ByteSize_slashes]
    exact Nat.add_comm 1 n
  constructor
  · refine locate_of_walk ⟨?_, ?_, ?_⟩ ?_
    · simp [hlist]
    · rw [hsize]
      exact hshort
    · exact distant_ne_empty n
    · rw [distant, Path.names_slashes ⟨"b"⟩ n]
      have hstart : files.start ⟨"b" ++ String.ofList (List.replicate n '/')⟩ = [] := by
        rw [start, hworking, ite_self]
      have hfind : files.find [] "b" = .ok (some .directory) := by
        rw [FileTree.find, if_neg (by decide), hthere]
      have hnames : Path.names ⟨"b"⟩ = ["b"] := by decide
      rw [hstart, hnames, walk_cons, step_directory (by decide) (by decide) hfind]
      rfl
  · have hslash : (distant n).directory.endsInSlash = true := by
      obtain ⟨k, rfl⟩ : ∃ k, n = k + 1 := ⟨n - 1, by omega⟩
      rw [Path.endsInSlash, hlist, List.replicate_succ', ← List.cons_append, List.getLast?_concat]
      rfl
    have hpath : (distant n).path "1_x" = ⟨(distant n).directory.text ++ "1_x.json"⟩ := by
      rw [path, Path.join, if_neg (by simp [distant]; decide), if_pos hslash]
      rfl
    have hnull : ¬((distant n).path "1_x").text.toList.contains '\x00' = true := by simp [hpath, hlist]
    have htoo : longestPath < ((distant n).path "1_x").text.utf8ByteSize := by
      rw [hpath, String.utf8ByteSize_append, hsize]
      show 4095 < n + 1 + 8
      omega
    rw [destination, if_neg hnull, if_pos htoo]
    rfl

/-- If the path of a document is too long, it cannot be told that the document is there. -/
theorem save_distant {n : Nat} (hlong : 4086 < n) (hshort : n < 4095) :
    aside.locate (distant n).directory = .ok (["b"], .directory) ∧
      (distant n).save (.new "x" 1 [] []) aside = (.error FileError.nameTooLong.toError, aside) := by
  have hthere : aside.lookup? ["b"] = some .directory := by decide +kernel
  obtain ⟨hlocate, hdestination⟩ := locate_distant hthere rfl hlong hshort
  refine ⟨hlocate, ?_⟩
  have hid : (Migration.new "x" 1 [] []).id = "1_x" := by decide +kernel
  have hcreate : aside.create ((distant n).path "1_x") (document (.new "x" 1 [] [])).toUTF8 = .error .nameTooLong := by
    rw [create, hdestination]
    rfl
  rw [save_of_made (createDirectories_of_locate hlocate), hid, hcreate]

/-- Saving may bring up what was not listed before, and it may fail to see a document that is there. -/
theorem not_save_durable : aside.WellFormed ∧
    (outward.directory.text ≠ "" ∧ Path.IsStem (Migration.new "y" 2 [] []).id ∧ outward.list aside = .ok [] ∧
      ∃ path after, outward.save (.new "y" 2 [] []) aside = (.ok path, after) ∧
        outward.list after ≠ .ok [.new "y" 2 [] []]) ∧
    (distant 4088).directory.text ≠ "" ∧ Path.IsStem (Migration.new "x" 1 [] []).id ∧
      aside.locate (distant 4088).directory = .ok (["b"], .directory) ∧
      (aside.lookup? ["1_x.json", "b"]).isSome = true ∧ ∃ error, error ≠ .duplicateMigration "1_x" ∧
        (distant 4088).save (.new "x" 1 [] []) aside = (.error error, aside) := by
  obtain ⟨hempty, path, after, hsave, hlist⟩ := list_outward
  obtain ⟨hlocate, hrefused⟩ := save_distant (n := 4088) (by decide) (by decide)
  refine ⟨by decide +kernel, ⟨by decide, by unfold Path.IsStem; decide +kernel, hempty, path, after, hsave, ?_⟩,
    distant_ne_empty 4088, by unfold Path.IsStem; decide +kernel, hlocate, by decide +kernel,
    FileError.nameTooLong.toError, nofun, hrefused⟩
  rw [hlist]
  exact fun h => absurd (congrArg List.length (Except.ok.inj h)) (by decide)

end SchemaJournal.Journal
