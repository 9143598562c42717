import SchemaJournal.Database.Store
import SchemaJournal.Proofs.Files.Directories
import SchemaJournal.Proofs.Journal.AppendOnly
import SchemaJournal.Proofs.Migration.Identity

/-!
# Duplicate migrations

Saving answers that a migration is there already if and only if its path leads to something once the directories are
made (`save_duplicate_iff`). Whatever a run leaves was there at its beginning, or it is a directory on the way to the
journal, or the document of a migration that the run has added (`performAll_lookup?`). If the journal started without
files and only built migrations were saved, a file under the path of a migration is the document of one with the same
time and name (`ids_identify`).

A directory is something too. It can be there under the name of the document from the beginning, and it can be made
because it is on the way that the path of the journal takes (`not_duplicate_iff_added`). If nothing stood in the
directory and its path has no `..`, neither happens.
-/

namespace SchemaJournal

open FileTree World

namespace Journal

variable {j : Journal} {m : Migration} {before made after : FileTree} {l : Location} {e : Entry} {id : String}
  {result : Except Error Path}

/-! ## What saving leaves -/

/-- A document stands in the directory of the journal itself. -/
structure IsDirectChild (j : Journal) (id : String) : Prop where
  names : (j.path id).names = j.directory.names ++ [id ++ ".json"]
  isAbsolute : (j.path id).isAbsolute = j.directory.isAbsolute
  aim : ∀ files : FileTree, files.aim (j.path id) = (id ++ ".json") :: files.aim j.directory

theorem isDirectChild (j : Journal) (hid : Path.IsStem id) : j.IsDirectChild id where
  names := Path.names_join j.directory (Path.isName_document hid)
  isAbsolute := Path.isAbsolute_join j.directory (Path.isName_document hid)
  aim files := aim_join files j.directory (Path.isName_document hid)

theorem grows_of_save (h : j.save m before = (result, after)) : Grows before after := by
  rcases save_cases h with ⟨e, unit, -, hmade⟩ | ⟨made, -, hmade, hputs⟩
  · exact (createDirectories_prepares hmade).toGrows
  · exact (createDirectories_prepares hmade).toGrows.trans hputs.grows

/-- What is there after saving was there before, or it is a directory on the way to the journal, or the document. -/
theorem lookup?_of_save (h : j.save m before = (result, after)) (hl : after.lookup? l = some e) :
    before.lookup? l = some e ∨ (e = .directory ∧ ∃ q ∈ j.directory.ancestors, l = before.aim q) ∨
      (∃ path, result = .ok path) ∧ e = .file (document m).toUTF8 ∧ l = before.aim (j.path m.id) := by
  rcases save_cases h with ⟨e', unit, -, hmade⟩ | ⟨made, hresult, hmade, hputs⟩
  · exact (lookup?_of_createDirectories hmade hl).imp_right .inl
  · rw [hputs.lookup?] at hl
    split at hl
    next heq =>
      cases hl
      exact .inr (.inr ⟨⟨_, hresult⟩, rfl, heq⟩)
    · exact (lookup?_of_createDirectories hmade hl).imp_right .inl

/-! ## When saving finds a duplicate -/

/-- Saving answers that the migration is there already if and only if its path leads to something once the directories
are made. -/
theorem save_duplicate_iff (hid : Path.IsStem m.id) : (j.save m before).1 = .error (.duplicateMigration m.id) ↔
    ∃ made, createDirectories j.directory before = (.ok (), made) ∧ made.contains (j.path m.id) = true := by
  constructor
  · intro h
    rcases hmade : createDirectories j.directory before with ⟨error | ⟨⟩, made⟩
    · rw [save_of_unmade hmade] at h
      cases h
    · refine ⟨made, rfl, ?_⟩
      rw [save_of_made hmade] at h
      have hslash : (j.path m.id).endsInSlash = false := Path.endsInSlash_join j.directory (Path.isName_document hid)
      split at h
      · cases h
      next hcreate => exact (create_alreadyExists_iff hslash).mp hcreate
      · cases h
  · rintro ⟨made, hmade, hcontains⟩
    rw [save_duplicate hid hmade hcontains]

/-- No directory is made if the path of a document leads to something. -/
theorem createDirectories_of_contains (hid : Path.IsStem id) (h : before.contains (j.path id) = true) :
    createDirectories j.directory before = (.ok (), before) := by
  by_cases hempty : j.directory.text = ""
  · unfold createDirectories Path.ancestors
    rw [if_pos (by simp [hempty])]
    rfl
  · obtain ⟨l, e, hlocate⟩ := contains_iff.mp h
    obtain ⟨here, hthere⟩ := locate_of_join hempty (Path.isName_document hid) hlocate
    exact createDirectories_of_locate hthere

/-- No file stands in the directory of the journal. The directory itself may be missing. -/
def HasNoFiles (j : Journal) (t : FileTree) : Prop :=
  ∀ name content, t.lookup? (name :: t.aim j.directory) ≠ some (.file content)

/-- Nothing stands in the directory of the journal. The directory itself may be missing. -/
def HasNothing (j : Journal) (t : FileTree) : Prop := ∀ name, t.lookup? (name :: t.aim j.directory) = none

/-- Once the directories are made, there is one under the name of the document. -/
def IsBlocked (j : Journal) (t : FileTree) (id : String) : Prop :=
  ∃ made, createDirectories j.directory t = (.ok (), made) ∧ made.isDirectory (j.path id) = true

end Journal

/-! ## Runs -/

namespace Operation

variable {σ : Type} {r : Runner σ} {op : Operation} {ops : List Operation} {w : World σ} {m : Migration} {l : Location}
  {e : Entry}

/-- What is not there to add a migration tells of none. -/
theorem perform_none (h : op.adds = false) : (op.perform r w).1 ≠ .ok (some m) := by
  have hnone : ∀ {α : Type} (act : Action (World σ) α),
      ((act >>= fun _ => pure none) w : Except Error (Option Migration) × World σ).1 ≠ .ok (some m) := by
    intro α act
    rw [Attempt.bind_run]
    rcases act w with ⟨e | a, w'⟩
    · nofun
    · nofun
  cases op with
  | save m => cases h
  | add name tables => cases h
  | list => exact hnone _
  | find id => exact hnone _
  | up => exact hnone _
  | down => exact hnone _
  | status => exact hnone _
  | clear schema => exact hnone _
  | wait clock => exact hnone _

/-- An operation leaves the files and adds nothing, or it saves a migration, which it was asked to save or has built. -/
theorem perform_cases (r : Runner σ) (op : Operation) (w : World σ) :
    ((op.perform r w).2.files = w.files ∧ ∀ m, (op.perform r w).1 ≠ .ok (some m)) ∨
      ∃ m result, r.journal.save m w.files = (result, (op.perform r w).2.files) ∧
        (op.perform r w).1 = result.map (fun _ => some m) ∧ (op = save m ∨ m.IsBuilt) := by
  cases hadds : op.adds with
  | false => exact .inl ⟨leavesFiles_perform r hadds w, fun m => perform_none hadds⟩
  | true =>
    match op, hadds with
    | save m, _ =>
      rcases hsave : r.journal.save m w.files with ⟨result, files⟩
      rw [perform_save hsave]
      exact .inr ⟨m, result, hsave, rfl, .inl rfl⟩
    | add name tables, _ =>
      cases hbuild : Migration.build name tables w.clock with
      | error e =>
        rw [perform_add (Journal.add_of_build_error hbuild)]
        exact .inl ⟨rfl, nofun⟩
      | ok m =>
        rcases hsave : r.journal.save m w.files with ⟨result, files⟩
        rw [perform_add (Journal.add_of_build hbuild hsave)]
        refine .inr ⟨m, result, hsave, ?_, .inr ⟨name, tables, w.clock, hbuild⟩⟩
        cases result with
        | error e => rfl
        | ok path => rfl

theorem perform_grows (r : Runner σ) (op : Operation) (w : World σ) : Grows w.files (op.perform r w).2.files := by
  rcases perform_cases r op w with ⟨hfiles, -⟩ | ⟨m, result, hsave, -, -⟩
  · rw [hfiles]
    exact .refl _
  · exact Journal.grows_of_save hsave

theorem perform_of_save {path : Path} (h : (r.journal.save m w.files).1 = .ok path) :
    ((save m).perform r w).1 = .ok (some m) := by
  rcases hsave : r.journal.save m w.files with ⟨result, files⟩
  rw [hsave] at h
  rw [perform_save hsave, show result = .ok path from h]
  rfl

/-- What adds a migration saves it; it was asked to, or it has built the migration. -/
theorem save_of_perform (h : (op.perform r w).1 = .ok (some m)) :
    ∃ path, r.journal.save m w.files = (.ok path, (op.perform r w).2.files) ∧ (op = save m ∨ m.IsBuilt) := by
  rcases perform_cases r op w with ⟨-, hnone⟩ | ⟨m', result, hsave, hresult, hbuilt⟩
  · exact absurd h (hnone m)
  · rw [hresult] at h
    cases result with
    | error e => cases h
    | ok path =>
      cases h
      exact ⟨path, hsave, hbuilt⟩

/-- What is there after an operation was there before, or it is a directory on the way to the journal, or the document
of the migration that was added. -/
theorem perform_lookup? (hl : (op.perform r w).2.files.lookup? l = some e) : w.files.lookup? l = some e ∨
    (e = .directory ∧ ∃ q ∈ r.journal.directory.ancestors, l = w.files.aim q) ∨
      ∃ m, (op.perform r w).1 = .ok (some m) ∧ e = .file (Journal.document m).toUTF8 ∧
        l = w.files.aim (r.journal.path m.id) := by
  rcases perform_cases r op w with ⟨hfiles, -⟩ | ⟨m, result, hsave, hresult, -⟩
  · rw [hfiles] at hl
    exact .inl hl
  · rcases Journal.lookup?_of_save hsave hl with hbefore | hway | ⟨⟨path, rfl⟩, he, haim⟩
    · exact .inl hbefore
    · exact .inr (.inl hway)
    · exact .inr (.inr ⟨m, hresult, he, haim⟩)

theorem performAll_grows (r : Runner σ) (w : World σ) (ops : List Operation) :
    Grows w.files (performAll r w ops).files := by
  induction ops generalizing w with
  | nil => exact .refl _
  | cons op rest ih => exact (perform_grows r op w).trans (ih _)

/-- What is there after a run was there at its beginning, or it is a directory on the way to the journal, or the
document of a migration that an operation of the run has added. -/
theorem performAll_lookup? (hl : (performAll r w ops).files.lookup? l = some e) : w.files.lookup? l = some e ∨
    (e = .directory ∧ ∃ q ∈ r.journal.directory.ancestors, l = w.files.aim q) ∨
      ∃ earlier op later m, ops = earlier ++ op :: later ∧
        (op.perform r (performAll r w earlier)).1 = .ok (some m) ∧ e = .file (Journal.document m).toUTF8 ∧
          l = w.files.aim (r.journal.path m.id) := by
  induction ops generalizing w with
  | nil => exact .inl hl
  | cons op rest ih =>
    -- Paths aim at the same places all along the run.
    have haim : ∀ p, (op.perform r w).2.files.aim p = w.files.aim p :=
      aim_congr (perform_grows r op w).workingDirectory_eq
    rcases ih hl with hnow | ⟨he, q, hq, hl⟩ | ⟨earlier, op', later, m, rfl, hadded, he, hl⟩
    · rcases perform_lookup? hnow with hbefore | hway | ⟨m, hadded, he, hl⟩
      · exact .inl hbefore
      · exact .inr (.inl hway)
      · exact .inr (.inr ⟨[], op, rest, m, rfl, hadded, he, hl⟩)
    · exact .inr (.inl ⟨he, q, hq, hl.trans (haim q)⟩)
    · exact .inr (.inr ⟨op :: earlier, op', later, m, rfl, hadded, he, hl.trans (haim _)⟩)

/-! ## What a run has added -/

/-- An operation of the run has added a migration with the same time and name. -/
def HasAdded (r : Runner σ) (w : World σ) (ops : List Operation) (m : Migration) : Prop :=
  ∃ earlier op later m', ops = earlier ++ op :: later ∧ (op.perform r (performAll r w earlier)).1 = .ok (some m') ∧
    m'.timestamp = m.timestamp ∧ m'.name = m.name

/-- Only migrations that were built are saved in the run. -/
def SavesBuilt (ops : List Operation) : Prop := ∀ m, save m ∈ ops → m.IsBuilt

theorem SavesBuilt.isBuilt {earlier later : List Operation} (h : SavesBuilt ops) (hops : ops = earlier ++ op :: later)
    (hadded : (op.perform r w).1 = .ok (some m)) : m.IsBuilt := by
  obtain ⟨path, -, rfl | hbuilt⟩ := save_of_perform hadded
  · exact h m (hops ▸ List.mem_append_right earlier List.mem_cons_self)
  · exact hbuilt

/-- What was added is still there. -/
theorem contains_of_hasAdded (hops : SavesBuilt ops) (hm : m.IsBuilt) (h : HasAdded r w ops m) :
    (performAll r w ops).files.contains (r.journal.path m.id) = true := by
  obtain ⟨earlier, op, later, m', hsplit, hadded, hsame⟩ := h
  have hid : m'.id = m.id := ((hops.isBuilt hsplit hadded).id_inj hm).mpr hsame
  obtain ⟨path, hsave, -⟩ := save_of_perform hadded
  obtain ⟨-, l, -, -, hadds⟩ := Journal.adds_of_save hsave
  have hfiles : performAll r w ops = performAll r (op.perform r (performAll r w earlier)).2 later := by
    rw [hsplit, performAll_append]
    rfl
  rw [hfiles]
  exact contains_iff.mpr ⟨l, _, (performAll_grows r _ later).locate (hid ▸ hadds.located)⟩

/-- A file that stands under the name of a document, in a journal that started without files, was added in the run. -/
theorem hasAdded_of_file (hops : SavesBuilt ops) (hstart : r.journal.HasNoFiles w.files) (hm : m.IsBuilt)
    {content : ByteArray} (hl : (performAll r w ops).files.lookup?
      ((m.id ++ ".json") :: w.files.aim r.journal.directory) = some (.file content)) : HasAdded r w ops m := by
  rcases performAll_lookup? hl with hbefore | ⟨he, -⟩ | ⟨earlier, op, later, m', hsplit, hadded, -, haim⟩
  · exact absurd hbefore (hstart _ _)
  · cases he
  · have hbuilt := hops.isBuilt hsplit hadded
    rw [(r.journal.isDirectChild hbuilt.isStem).aim] at haim
    have hid : m'.id = m.id := ((String.append_left_inj ".json").mp (List.cons.inj haim).1).symm
    exact ⟨earlier, op, later, m', hsplit, hadded, (hbuilt.id_inj hm).mp hid⟩

theorem save_duplicate_iff_hasAdded (hops : SavesBuilt ops) (hstart : r.journal.HasNoFiles w.files) (hm : m.IsBuilt) :
    (r.journal.save m (performAll r w ops).files).1 = .error (.duplicateMigration m.id) ↔
      HasAdded r w ops m ∨ r.journal.IsBlocked (performAll r w ops).files m.id := by
  have haim : (performAll r w ops).files.aim r.journal.directory = w.files.aim r.journal.directory :=
    aim_congr (performAll_grows r w ops).workingDirectory_eq _
  rw [Journal.save_duplicate_iff hm.isStem]
  constructor
  · rintro ⟨made, hmade, hcontains⟩
    have hprepares := createDirectories_prepares hmade
    obtain ⟨l, e, hlocate⟩ := contains_iff.mp hcontains
    cases e with
    | directory => exact .inr ⟨made, hmade, isDirectory_iff.mpr ⟨l, hlocate⟩⟩
    | file content =>
      obtain ⟨rfl, hfile⟩ := lookup?_of_locate_join (Path.isName_document hm.isStem) hlocate
      rw [aim_congr hprepares.workingDirectory_eq, haim] at hfile
      exact .inl (hasAdded_of_file hops hstart hm (hprepares.files hfile))
  · rintro (hadded | ⟨made, hmade, hdirectory⟩)
    · have hcontains := contains_of_hasAdded hops hm hadded
      exact ⟨_, Journal.createDirectories_of_contains hm.isStem hcontains, hcontains⟩
    · obtain ⟨l, hlocate⟩ := isDirectory_iff.mp hdirectory
      exact ⟨made, hmade, contains_iff.mpr ⟨l, _, hlocate⟩⟩

/-- If nothing stood in the directory and its path does not lead upwards, no directory comes to stand in it. -/
theorem not_isBlocked (hdots : ".." ∉ r.journal.directory.names) (hstart : r.journal.HasNothing w.files)
    (hid : Path.IsStem m.id) : ¬r.journal.IsBlocked (performAll r w ops).files m.id := by
  rintro ⟨made, hmade, hdirectory⟩
  have haim : ∀ p, (performAll r w ops).files.aim p = w.files.aim p :=
    aim_congr (performAll_grows r w ops).workingDirectory_eq
  obtain ⟨l, hlocate⟩ := isDirectory_iff.mp hdirectory
  obtain ⟨rfl, hl⟩ := lookup?_of_locate_join (Path.isName_document hid) hlocate
  rw [aim_congr (createDirectories_prepares hmade).workingDirectory_eq, haim] at hl
  have hway : ∀ q ∈ r.journal.directory.ancestors,
      (m.id ++ ".json") :: w.files.aim r.journal.directory ≠ w.files.aim q := fun q => aim_ancestor_ne hdots
  -- This save or the run has made the directory, but what is made stands on the way to the journal and not in it.
  rcases lookup?_of_createDirectories hmade hl with hafter | ⟨-, q, hq, hmade⟩
  · rcases performAll_lookup? hafter with hbefore | ⟨-, q, hq, hmade⟩ | ⟨-, -, -, m', -, -, he, -⟩
    · cases (hstart _).symm.trans hbefore
    · exact hway q hq hmade
    · cases he
  · exact hway q hq (hmade.trans (haim q))

/-- **Ids identify migrations.** An id tells the time and the name, and at one time ids are ordered as names are. With a
valid name it is made of letters, digits, underscores and hyphens, and the document stands in the directory of the
journal itself.

So if a journal started without files, and only built migrations were saved, then saving a built one finds a duplicate
if and only if one of the same time and name was added before, or a directory stands under the name of its document.
There is none if nothing stood in the directory at the beginning and its path does not lead upwards. -/
theorem ids_identify (r : Runner σ) (w : World σ) (ops : List Operation) (hops : SavesBuilt ops)
    (hstart : r.journal.HasNoFiles w.files) :
    (∀ t t' n n' up up' down down', (Migration.new n t up down).id = (Migration.new n' t' up' down').id →
      t = t' ∧ n = n') ∧
    (∀ t n n' up up' down down', (Migration.new n t up down).id < (Migration.new n' t up' down').id ↔ n < n') ∧
    (∀ t n up down, Migration.checkName n = .ok () →
      (∀ c ∈ (Migration.new n t up down).id.toList, c.isAlphanum = true ∨ c = '_' ∨ c = '-') ∧
        r.journal.IsDirectChild (Migration.new n t up down).id) ∧
    ∀ m : Migration, m.IsBuilt →
      ((r.journal.save m (performAll r w ops).files).1 = .error (.duplicateMigration m.id) ↔
        HasAdded r w ops m ∨ r.journal.IsBlocked (performAll r w ops).files m.id) ∧
      (".." ∉ r.journal.directory.names → r.journal.HasNothing w.files →
        ((r.journal.save m (performAll r w ops).files).1 = .error (.duplicateMigration m.id) ↔
          HasAdded r w ops m)) := by
  refine ⟨fun t t' n n' up up' down down' h => Migration.idOf_inj.mp h, fun t n n' up up' down down' =>
    Migration.idOf_lt_iff, fun t n up down hname => ⟨fun c hc => ?_, ?_⟩, fun m hm => ⟨?_, fun hdots hnothing => ?_⟩⟩
  · have hchar := Migration.isNameChar_of_mem_idOf hname hc
    simpa [Migration.isNameChar, or_assoc] using hchar
  · exact r.journal.isDirectChild (Migration.isStem_idOf hname t)
  · exact save_duplicate_iff_hasAdded hops hstart hm
  · rw [save_duplicate_iff_hasAdded hops hstart hm]
    exact or_iff_left (not_isBlocked hdots hnothing hm.isStem)

/-! ## Journals -/

/-- A migration that does nothing. -/
def idle : Migration := .new "x" 1 [] []

theorem isBuilt_idle : idle.IsBuilt := by
  have hname : Migration.checkName "x" = .ok () := by decide
  have horder : order [] = .ok [] := by
    unfold order
    simp [Order.visitAll]
  refine ⟨"x", [], 1, ?_⟩
  unfold Migration.build
  rw [hname, horder]
  rfl

/-- A world in which there are no files and no directories. -/
def void : World Database.Memory := ⟨bare [], Database.Memory.empty, [], 0⟩

theorem hasNothing_void (j : Journal) : j.HasNothing void.files := fun _ => rfl

theorem hasNoFiles_void (j : Journal) : j.HasNoFiles void.files := fun _ _ => nofun

/-- A migration that is saved twice is a duplicate. -/
theorem twice_ids_identify : SavesBuilt [save idle] ∧ Journal.standard.HasNoFiles void.files ∧
    (Journal.standard.save idle (performAll ⟨.standard, Database.Memory.pool⟩ void [save idle]).files).1 =
      .error (.duplicateMigration idle.id) := by
  have hops : SavesBuilt [save idle] := by
    intro m hm
    obtain rfl : m = idle := Operation.save.inj (List.mem_singleton.mp hm)
    exact isBuilt_idle
  have hsave : (Journal.standard.save idle void.files).1 = .ok ⟨"migrations/1_x.json"⟩ :=
    Attempt.eq_ok_of_toOption (by decide +kernel)
  have hadded : ((save idle).perform ⟨.standard, Database.Memory.pool⟩ void).1 = .ok (some idle) :=
    perform_of_save hsave
  obtain ⟨-, -, -, hduplicate⟩ :=
    ids_identify ⟨.standard, Database.Memory.pool⟩ void [save idle] hops (hasNoFiles_void _)
  have hiff := (hduplicate idle isBuilt_idle).2 (by decide) (hasNothing_void _)
  exact ⟨hops, hasNoFiles_void _, hiff.mpr ⟨[], save idle, [], idle, rfl, hadded, rfl, rfl⟩⟩

/-- A journal of which the path goes through a directory with the name of a document. -/
def throughDocument : Journal := ⟨⟨"1_x.json/.."⟩, "_migrations"⟩

/-- A migration that was never added can be a duplicate: here a directory has the name of its document, and it was made
because the path of the journal goes through it. -/
theorem not_duplicate_iff_added : ¬∀ (r : Runner Database.Memory) (w : World Database.Memory) (ops : List Operation),
    SavesBuilt ops → r.journal.HasNoFiles w.files → ∀ m : Migration, m.IsBuilt →
      ((r.journal.save m (performAll r w ops).files).1 = .error (.duplicateMigration m.id) ↔ HasAdded r w ops m) := by
  intro hall
  have hmade : (createDirectories throughDocument.directory void.files).1 = .ok () :=
    Attempt.eq_ok_of_toOption (by decide +kernel)
  have hcontains : (createDirectories throughDocument.directory void.files).2.contains (throughDocument.path idle.id) =
    true := by decide +kernel
  have hduplicate := (Journal.save_duplicate_iff isBuilt_idle.isStem).mpr ⟨_, Prod.ext hmade rfl, hcontains⟩
  obtain ⟨earlier, op, later, -, hsplit, -⟩ := (hall ⟨throughDocument, Database.Memory.pool⟩ void [] nofun
    (hasNoFiles_void _) idle isBuilt_idle).mp hduplicate
  exact List.append_ne_nil_of_right_ne_nil earlier (List.cons_ne_nil op later) hsplit.symm

end Operation

end SchemaJournal
