import SchemaJournal.Migration.Runner
import SchemaJournal.Proofs.Ensures
import SchemaJournal.Proofs.Journal.Durability
import SchemaJournal.Proofs.Migration.References

/-!
# A journal that only grows

Whatever is asked of a journal and its runner, and in which order, the files that are there stay as they are. Only what
adds a migration adds a file, and it adds exactly one, where nothing was; if it fails it adds none
(`journal_appendOnly`).

- `LeavesFiles` holds of all operations on a database;
- `Adds` is what a migration that is added does to the files, `Operation.Effect` what any operation does;
- `runAll_keeps` is the law of a run.
-/

namespace SchemaJournal

open World

/-! ## Operations that leave the files -/

/-- The operation leaves the files as they are, whether or not it fails. -/
def LeavesFiles {σ α : Type} (act : Action (World σ) α) : Prop := ∀ w, (act w).2.files = w.files

namespace LeavesFiles

variable {σ α β : Type} {x : Action (World σ) α} {f : α → Action (World σ) β}

theorem bind (hx : LeavesFiles x) (hf : ∀ a, LeavesFiles (f a)) : LeavesFiles (x >>= f) := by
  intro w
  have hw := hx w
  rcases h : x w with ⟨_ | a, w'⟩
  · rw [h] at hw
    rw [Attempt.bind_error h]
    exact hw
  · rw [h] at hw
    rw [Attempt.bind_ok h]
    exact (hf a w').trans hw

theorem pure (a : α) : LeavesFiles (σ := σ) (Pure.pure a) := fun _ => rfl

theorem ofExcept (result : Except Error α) : LeavesFiles (σ := σ) (Attempt.ofExcept result) := fun _ => rfl

theorem tell (level : Level) (message : String) : LeavesFiles (σ := σ) (tell level message) := fun _ => rfl

theorem onDatabase (act : Action σ α) : LeavesFiles (onDatabase act) := fun _ => rfl

theorem readFiles (f : FileTree → Except Error α) : LeavesFiles (σ := σ) (readFiles f) := fun _ => rfl

theorem restate (hx : LeavesFiles x) (wrap : Error → Error) : LeavesFiles (x.restate wrap) := hx

theorem outcome (hx : LeavesFiles x) : LeavesFiles x.outcome := hx

end LeavesFiles

namespace Runner

variable {σ : Type} (r : Runner σ)

theorem leavesFiles_ensureTracking : LeavesFiles r.ensureTracking :=
  .bind (.restate (.onDatabase _) _) fun _ => .pure _

theorem leavesFiles_applied : LeavesFiles r.applied := .bind (.onDatabase _) fun _ => .ofExcept _

theorem leavesFiles_latest : LeavesFiles r.latest := by
  refine .bind (.onDatabase _) fun rows => ?_
  cases rows with
  | nil => exact .pure _
  | cons row _ => exact .bind (.ofExcept _) fun _ => .pure _

theorem leavesFiles_abandon : LeavesFiles r.abandon := by
  refine .bind (.outcome (.onDatabase _)) fun result => ?_
  cases result with
  | ok => exact .pure _
  | error e => exact .tell _ _

theorem leavesFiles_executeAll {announce : String → Action (World σ) Unit}
    (hannounce : ∀ sql, LeavesFiles (announce sql)) (wrap : String → Error → Error) (script : List Database.Prepared) :
    LeavesFiles (r.executeAll announce wrap script) := by
  induction script with
  | nil => exact .pure _
  | cons p rest ih =>
    refine .bind (hannounce p.1) fun _ => .bind (.outcome (.onDatabase _)) fun result => ?_
    cases result with
    | ok => exact ih
    | error e => exact .bind r.leavesFiles_abandon fun _ => .ofExcept (.error _)

theorem leavesFiles_runUnit (m : Migration) (statements : List String) (bookkeeping : Database.Prepared) :
    LeavesFiles (r.runUnit m statements bookkeeping) :=
  .bind (.onDatabase _) fun _ => .bind (r.leavesFiles_executeAll (fun _ => .pure _) _ _) fun _ =>
    .restate (.onDatabase _) _

theorem leavesFiles_applyAll (migrations : List Migration) : LeavesFiles (r.applyAll migrations) := by
  induction migrations with
  | nil => exact .pure _
  | cons m rest ih =>
    refine .bind (.bind (.tell _ _) fun _ => ?_) fun _ => ih
    exact .bind (r.leavesFiles_runUnit m _ _) fun _ => .tell _ _

theorem leavesFiles_up : LeavesFiles r.up := by
  refine .bind (fun _ => rfl) fun start => .bind r.leavesFiles_ensureTracking fun _ => ?_
  refine .bind (.readFiles _) fun migrations => .bind r.leavesFiles_applied fun records => ?_
  exact .bind (r.leavesFiles_applyAll _) fun _ => .bind (fun _ => rfl) fun _ => .pure _

theorem leavesFiles_down : LeavesFiles r.down := by
  refine .bind r.leavesFiles_ensureTracking fun _ => .bind r.leavesFiles_latest fun latest => ?_
  cases latest with
  | none => exact .bind (.tell _ _) fun _ => .pure _
  | some record =>
    refine .bind (.readFiles _) fun found => ?_
    cases found with
    | none => exact .ofExcept (.error _)
    | some m =>
      refine .bind (.tell _ _) fun _ => .bind (r.leavesFiles_runUnit m _ _) fun _ => ?_
      exact .bind (.tell _ _) fun _ => .pure _

theorem leavesFiles_tellOrphans (migrations : List Migration) (records : List Database.Record) :
    LeavesFiles (r.tellOrphans migrations records) := by
  induction records with
  | nil => exact .pure _
  | cons record rest ih =>
    unfold tellOrphans
    split
    · exact .bind (.tell _ _) fun _ => ih
    · exact ih

theorem leavesFiles_status : LeavesFiles r.status := by
  refine .bind r.leavesFiles_ensureTracking fun _ => .bind (.readFiles _) fun migrations => ?_
  refine .bind r.leavesFiles_applied fun records => .bind (r.leavesFiles_tellOrphans _ _) fun _ => ?_
  exact .pure _

theorem leavesFiles_clear (schema : Schema) : LeavesFiles (r.clear schema) := by
  refine .bind (.ofExcept _) fun ordered => .bind (.onDatabase _) fun _ => ?_
  refine .bind (r.leavesFiles_executeAll (fun _ => .tell _ _) _ _) fun _ => ?_
  exact .bind (.restate (.onDatabase _) _) fun _ => .pure _

end Runner

/-! ## Adding to a journal -/

namespace Journal

open FileTree

variable {j : Journal} {m : Migration} {before made after : FileTree} {path : Path} {here l : Location}

/-- The directory in which the documents stand. The empty path is the working directory. -/
def IsPlace (j : Journal) (t : FileTree) (here : Location) : Prop :=
  if j.directory.text = "" then here = t.workingDirectory else t.locate j.directory = .ok (here, .directory)

/-- The document of a migration was added: its path led to nothing, and now it leads to a new file. All other files are
as they were. -/
structure Adds (j : Journal) (m : Migration) (before after : FileTree) (l : Location) : Prop where
  missing : before.contains (j.path m.id) = false
  free : before.lookup? l = none
  located : after.locate (j.path m.id) = .ok (l, .file (document m).toUTF8)
  others : ∀ k ≠ l, ∀ content, after.lookup? k = some (.file content) ↔ before.lookup? k = some (.file content)

/-- All files of a tree are in another one with the same content. -/
def KeepsFiles (before after : FileTree) : Prop :=
  ∀ l content, before.lookup? l = some (.file content) → after.lookup? l = some (.file content)

theorem KeepsFiles.trans (h : KeepsFiles before made) (h' : KeepsFiles made after) : KeepsFiles before after :=
  fun l content hl => h' l content (h l content hl)

theorem Adds.keepsFiles (h : j.Adds m before after l) : KeepsFiles before after := by
  intro k content hk
  refine (h.others k ?_ content).mpr hk
  rintro rfl
  cases hk.symm.trans h.free

theorem Adds.written (h : j.Adds m before after l) : after.lookup? l = some (.file (document m).toUTF8) := by
  rcases locate_ok h.located with ⟨-, he⟩ | ⟨parent, name, -, rfl, hf⟩
  · cases he
  · exact (find_ok hf).2

/-- A save that succeeds adds the document of the migration. -/
theorem adds_of_save (h : j.save m before = (.ok path, after)) : ∃ made l,
    createDirectories j.directory before = (.ok (), made) ∧ Grows made after ∧ j.Adds m before after l := by
  rcases save_cases h with ⟨e, unit, he, -⟩ | ⟨made, -, hmade, hputs⟩
  · cases he
  · have hprepares := createDirectories_prepares hmade
    refine ⟨made, _, hmade, hputs.grows, Bool.eq_false_iff.mpr fun hcontains => ?_, ?_, hputs.located, ?_⟩
    · cases hputs.missing.symm.trans (hprepares.toGrows.contains hcontains)
    · cases hfound : before.lookup? (before.aim (j.path m.id)) with
      | none => rfl
      | some e => cases (hprepares.kept hfound).symm.trans hputs.free
    · intro k hk content
      rw [hputs.lookup?, if_neg hk]
      exact ⟨hprepares.files, hprepares.kept⟩

/-- Once its directories are made, a journal has its documents where its path aims. -/
theorem isPlace_aim (hmade : createDirectories j.directory before = (.ok (), made)) (hgrows : Grows made after) :
    j.IsPlace after (after.aim j.directory) := by
  unfold IsPlace
  split
  next hempty =>
    have hdirectory : j.directory = ⟨""⟩ := congrArg Path.mk hempty
    rw [hdirectory]
    rfl
  next hempty =>
    obtain ⟨here, hlocate⟩ := createDirectories_ok hempty hmade
    have hplace := hgrows.locate hlocate
    rwa [← eq_aim_of_locate hplace]

/-- If its id is a stem, the document stands in the directory of the journal and is named by the id. -/
theorem place_of_save (hid : Path.IsStem m.id) (h : j.save m before = (.ok path, after)) :
    ∃ here, j.IsPlace after here ∧ j.Adds m before after ((m.id ++ ".json") :: here) := by
  obtain ⟨made, l, hmade, hgrows, hadds⟩ := adds_of_save h
  obtain rfl : l = (m.id ++ ".json") :: after.aim j.directory :=
    (eq_aim_of_locate hadds.located).trans (aim_join after j.directory (Path.isName_document hid))
  exact ⟨after.aim j.directory, isPlace_aim hmade hgrows, hadds⟩

end Journal

/-! ## Adding built migrations -/

namespace Journal

variable {σ : Type} {j : Journal} {name : String} {tables : List Table} {w w' : World σ} {m : Migration} {e : Error}

theorem add_of_build_error (h : Migration.build name tables w.clock = .error e) :
    j.add name tables w = (.error e, { w with clock := w.clock + 1 }) := by
  have hnow : now w = (.ok w.clock, { w with clock := w.clock + 1 }) := rfl
  unfold add
  rw [Attempt.bind_ok hnow, h]
  exact Attempt.bind_error rfl _

/-- A migration that was built is added by saving it. -/
theorem add_of_build (h : Migration.build name tables w.clock = .ok m) {result : Except Error Path} {files : FileTree}
    (hsave : j.save m w.files = (result, files)) :
    j.add name tables w = (result.map fun _ => m, { w with files, clock := w.clock + 1 }) := by
  have hnow : now w = (.ok w.clock, { w with clock := w.clock + 1 }) := rfl
  have hbuilt : Attempt.ofExcept (.ok m) { w with clock := w.clock + 1 } =
    ((.ok m, { w with clock := w.clock + 1 }) : Except Error Migration × World σ) := rfl
  unfold add
  rw [Attempt.bind_ok hnow, h, Attempt.bind_ok hbuilt, Attempt.bind_run, onFiles, Attempt.within, hsave]
  cases result with
  | error e => rfl
  | ok path => rfl

/-- What is added was built and then saved. -/
theorem add_eq_ok (h : j.add name tables w = (.ok m, w')) : Migration.build name tables w.clock = .ok m ∧
    ∃ path, j.save m w.files = (.ok path, w'.files) := by
  cases hbuild : Migration.build name tables w.clock with
  | error e => cases (add_of_build_error hbuild).symm.trans h
  | ok m' =>
    rcases hsave : j.save m' w.files with ⟨_ | path, files⟩
    · cases (add_of_build hbuild hsave).symm.trans h
    · cases (add_of_build hbuild hsave).symm.trans h
      exact ⟨rfl, path, hsave⟩

theorem sameFiles_of_save_error {before after : FileTree} (h : j.save m before = (.error e, after)) :
    SameFiles before after :=
  fun _ _ => ⟨(prepares_of_save_error h).files, (prepares_of_save_error h).kept⟩

/-- If nothing is added, then nothing was built, or saving it failed. -/
theorem sameFiles_of_add_error (h : j.add name tables w = (.error e, w')) : SameFiles w.files w'.files := by
  cases hbuild : Migration.build name tables w.clock with
  | error e' =>
    cases (add_of_build_error hbuild).symm.trans h
    exact fun _ _ => Iff.rfl
  | ok m =>
    rcases hsave : j.save m w.files with ⟨_ | path, files⟩
    · cases (add_of_build hbuild hsave).symm.trans h
      exact sameFiles_of_save_error hsave
    · cases (add_of_build hbuild hsave).symm.trans h

/-- With a bad name or with tables that have no order, no file is looked at. -/
theorem add_refused (h : (∃ fault, Migration.checkName name = .error fault) ∨ ∃ e, order tables = .error e) :
    ∃ e w', j.add name tables w = (.error e, w') ∧ w'.files = w.files := by
  cases hbuild : Migration.build name tables w.clock with
  | error e => exact ⟨e, _, add_of_build_error hbuild, rfl⟩
  | ok m =>
    obtain ⟨hname, ordered, horder, -⟩ := build_eq_ok hbuild
    rcases h with ⟨fault, hfault⟩ | ⟨e, he⟩
    · cases hname.symm.trans hfault
    · cases horder.symm.trans he

end Journal

/-! ## Operations -/

/-- What can be asked of a journal and its runner. -/
inductive Operation where
  | save (m : Migration)
  | add (name : String) (tables : List Table)
  | list
  | find (id : String)
  | up
  | down
  | status
  | clear (schema : Schema)
  /-- Nothing is asked until some time. -/
  | wait (clock : Int64)

namespace Operation

variable {σ : Type} {r : Runner σ}

/-- Whether the operation is there to add a migration. -/
def adds : Operation → Bool
  | save _ | add .. => true
  | _ => false

/-- Performs an operation; the migration that it has added, if it is there to add one. -/
def perform (r : Runner σ) : Operation → Action (World σ) (Option Migration)
  | save m => do
    let _ ← onFiles (r.journal.save m)
    return some m
  | add name tables => do return some (← r.journal.add name tables)
  | list => do
    let _ ← readFiles r.journal.list
    return none
  | find id => do
    let _ ← readFiles (r.journal.find · id)
    return none
  | up => do
    let _ ← r.up
    return none
  | down => do
    let _ ← r.down
    return none
  | status => do
    let _ ← r.status
    return none
  | clear schema => do
    let _ ← r.clear schema
    return none
  | wait clock => do
    modify ({ · with clock })
    return none

/-- The world after several operations. -/
def performAll (r : Runner σ) (w : World σ) (ops : List Operation) : World σ :=
  ops.foldl (fun w op => (op.perform r w).2) w

/-- What an operation does to the files. -/
structure Effect (r : Runner σ) (op : Operation) (w : World σ) : Prop where
  /-- What adds a migration adds its document and changes nothing else. -/
  added : op.adds = true → ∀ result w', op.perform r w = (.ok result, w') →
    ∃ m l, result = some m ∧ r.journal.Adds m w.files w'.files l
  /-- A migration that is built stands in the directory under its time and name. -/
  placed : ∀ name tables, op = add name tables → ∀ m w', op.perform r w = (.ok (some m), w') →
    Migration.build name tables w.clock = .ok m ∧ ∃ here, r.journal.IsPlace w'.files here ∧
      r.journal.Adds m w.files w'.files ((toString w.clock.toInt ++ "_" ++ name ++ ".json") :: here)
  /-- If it fails, there are the same files as before. -/
  failed : ∀ e w', op.perform r w = (.error e, w') → Journal.SameFiles w.files w'.files
  /-- A bad name and tables without an order are refused before any directory is made. -/
  refused : ∀ name tables, op = add name tables →
    ((∃ fault, Migration.checkName name = .error fault) ∨ ∃ e, order tables = .error e) →
      ∃ e w', op.perform r w = (.error e, w') ∧ w'.files = w.files
  /-- All other operations leave the files and the directories. -/
  left : op.adds = false → (op.perform r w).2.files = w.files

theorem perform_save {m : Migration} {w : World σ} {result : Except Error Path} {files : FileTree}
    (h : r.journal.save m w.files = (result, files)) :
    (save m).perform r w = (result.map fun _ => some m, { w with files }) := by
  have hfiles : onFiles (r.journal.save m) w = (result, { w with files }) := by rw [onFiles, Attempt.within, h]
  show (onFiles (r.journal.save m) >>= fun _ => pure (some m)) w = _
  rw [Attempt.bind_run, hfiles]
  cases result with
  | error e => rfl
  | ok path => rfl

theorem perform_add {name : String} {tables : List Table} {w w' : World σ} {result : Except Error Migration}
    (h : r.journal.add name tables w = (result, w')) : (add name tables).perform r w = (result.map some, w') := by
  show (r.journal.add name tables >>= fun m => pure (some m)) w = _
  rw [Attempt.bind_run, h]
  cases result with
  | error e => rfl
  | ok m => rfl

theorem effect_save (m : Migration) (w : World σ) : (save m).Effect r w where
  added _ result w' h := by
    rcases hsave : r.journal.save m w.files with ⟨_ | path, files⟩
    · cases (perform_save hsave).symm.trans h
    · cases (perform_save hsave).symm.trans h
      obtain ⟨-, l, -, -, hadds⟩ := Journal.adds_of_save hsave
      exact ⟨m, l, rfl, hadds⟩
  placed := nofun
  failed e w' h := by
    rcases hsave : r.journal.save m w.files with ⟨_ | path, files⟩
    · cases (perform_save hsave).symm.trans h
      exact Journal.sameFiles_of_save_error hsave
    · cases (perform_save hsave).symm.trans h
  refused := nofun
  left := nofun

theorem effect_add (name : String) (tables : List Table) (w : World σ) : (add name tables).Effect r w where
  added _ result w' h := by
    rcases hadd : r.journal.add name tables w with ⟨_ | m, w₁⟩
    · cases (perform_add hadd).symm.trans h
    · cases (perform_add hadd).symm.trans h
      obtain ⟨-, path, hsave⟩ := Journal.add_eq_ok hadd
      obtain ⟨-, l, -, -, hadds⟩ := Journal.adds_of_save hsave
      exact ⟨m, l, rfl, hadds⟩
  placed name' tables' hop m w' h := by
    cases hop
    rcases hadd : r.journal.add name tables w with ⟨_ | m', w₁⟩
    · cases (perform_add hadd).symm.trans h
    · cases (perform_add hadd).symm.trans h
      obtain ⟨hbuild, path, hsave⟩ := Journal.add_eq_ok hadd
      obtain ⟨hname, ordered, -, hm⟩ := build_eq_ok hbuild
      have hid : m.id = Migration.idOf w.clock name := congrArg Migration.id hm
      have hstem : Path.IsStem m.id := hid ▸ Migration.isStem_idOf hname w.clock
      obtain ⟨here, hplace, hadds⟩ := Journal.place_of_save hstem hsave
      rw [hid] at hadds
      exact ⟨hbuild, here, hplace, hadds⟩
  failed e w' h := by
    rcases hadd : r.journal.add name tables w with ⟨_ | m, w₁⟩
    · cases (perform_add hadd).symm.trans h
      exact Journal.sameFiles_of_add_error hadd
    · cases (perform_add hadd).symm.trans h
  refused name' tables' hop h := by
    cases hop
    obtain ⟨e, w', hadd, hfiles⟩ := Journal.add_refused h
    exact ⟨e, w', perform_add hadd, hfiles⟩
  left := nofun

/-- What is not there to add a migration leaves the files. -/
theorem leavesFiles_perform (r : Runner σ) {op : Operation} (h : op.adds = false) : LeavesFiles (op.perform r) := by
  cases op with
  | save m => cases h
  | add name tables => cases h
  | list => exact .bind (.readFiles _) fun _ => .pure _
  | find id => exact .bind (.readFiles _) fun _ => .pure _
  | up => exact .bind r.leavesFiles_up fun _ => .pure _
  | down => exact .bind r.leavesFiles_down fun _ => .pure _
  | status => exact .bind r.leavesFiles_status fun _ => .pure _
  | clear schema => exact .bind (r.leavesFiles_clear schema) fun _ => .pure _
  | wait clock => exact .bind (fun _ => rfl) fun _ => .pure _

theorem effect_of_not_adds {op : Operation} (h : op.adds = false) (w : World σ) : op.Effect r w where
  added hadds := by cases h.symm.trans hadds
  placed name tables hop := by
    subst hop
    cases h
  failed e w' hperform := by
    have hfiles := leavesFiles_perform r h w
    rw [hperform] at hfiles
    rw [hfiles]
    exact fun _ _ => Iff.rfl
  refused name tables hop := by
    subst hop
    cases h
  left _ := leavesFiles_perform r h w

/-- Every operation has its effect, from any files, any database and at any time. -/
theorem effect (r : Runner σ) (op : Operation) (w : World σ) : op.Effect r w := by
  cases hadds : op.adds with
  | false => exact effect_of_not_adds hadds w
  | true =>
    match op, hadds with
    | save m, _ => exact effect_save m w
    | add name tables, _ => exact effect_add name tables w

/-- The files after an operation are those before it, and the document of a migration if one was added. -/
theorem Effect.files_cases {op : Operation} {w : World σ} (h : op.Effect r w) :
    Journal.SameFiles w.files (op.perform r w).2.files ∨ ∃ m l, (op.perform r w).1 = .ok (some m) ∧
      r.journal.Adds m w.files (op.perform r w).2.files l := by
  cases hadds : op.adds with
  | false =>
    rw [h.left hadds]
    exact .inl fun _ _ => Iff.rfl
  | true =>
    rcases hperform : op.perform r w with ⟨e | result, w'⟩
    · exact .inl (h.failed e w' hperform)
    · obtain ⟨m, l, rfl, hadd⟩ := h.added hadds result w' hperform
      exact .inr ⟨m, l, rfl, hadd⟩

/-- No operation changes or removes a file. -/
theorem perform_keeps (r : Runner σ) (op : Operation) (w : World σ) :
    Journal.KeepsFiles w.files (op.perform r w).2.files := by
  rcases (effect r op w).files_cases with hsame | ⟨m, l, -, hadds⟩
  · exact fun k content => (hsame k content).mpr
  · exact hadds.keepsFiles

/-! ## Runs -/

theorem performAll_keeps (r : Runner σ) (w : World σ) (ops : List Operation) :
    Journal.KeepsFiles w.files (performAll r w ops).files := by
  induction ops generalizing w with
  | nil => exact fun _ _ => id
  | cons op rest ih => exact (perform_keeps r op w).trans (ih _)

theorem performAll_append (r : Runner σ) (w : World σ) (earlier later : List Operation) :
    performAll r w (earlier ++ later) = performAll r (performAll r w earlier) later := List.foldl_append

/-- Every file after a run was there before it, or an operation of the run has added it. -/
theorem performAll_files (r : Runner σ) (w : World σ) (ops : List Operation) {l : Location} {content : ByteArray}
    (h : (performAll r w ops).files.lookup? l = some (.file content)) :
    w.files.lookup? l = some (.file content) ∨ ∃ earlier op later m, ops = earlier ++ op :: later ∧
      (op.perform r (performAll r w earlier)).1 = .ok (some m) ∧ content = (Journal.document m).toUTF8 := by
  induction ops generalizing w with
  | nil => exact .inl h
  | cons op rest ih =>
    rcases ih _ h with hfile | ⟨earlier, op', later, m, rfl, hadded, hcontent⟩
    · rcases (effect r op w).files_cases with hsame | ⟨m, l', hadded, hadds⟩
      · exact .inl ((hsame l content).mp hfile)
      · by_cases hl : l = l'
        · subst hl
          cases hfile.symm.trans hadds.written
          exact .inr ⟨[], op, rest, m, rfl, hadded, rfl⟩
        · exact .inl ((hadds.others l hl content).mp hfile)
    · exact .inr ⟨op :: earlier, op', later, m, rfl, hadded, hcontent⟩

/-- **A journal only grows.** At no moment of a run is a file missing or different that was there at an earlier one.
Every operation has its effect, so what adds a migration adds one file or fails and adds none, and at the end there are
no other files than those of the beginning and those that were added. -/
theorem journal_appendOnly (r : Runner σ) (w : World σ) (ops : List Operation) :
    (∀ earlier later, ops = earlier ++ later →
      Journal.KeepsFiles (performAll r w earlier).files (performAll r w ops).files) ∧
    (∀ earlier op later, ops = earlier ++ op :: later → op.Effect r (performAll r w earlier)) ∧
    ∀ l content, (performAll r w ops).files.lookup? l = some (.file content) →
      w.files.lookup? l = some (.file content) ∨ ∃ earlier op later m, ops = earlier ++ op :: later ∧
        (op.perform r (performAll r w earlier)).1 = .ok (some m) ∧ content = (Journal.document m).toUTF8 := by
  refine ⟨fun earlier later hops => ?_, fun _ _ _ _ => effect r _ _, fun _ _ => performAll_files r w ops⟩
  rw [hops, performAll_append]
  exact performAll_keeps r _ later

end Operation

end SchemaJournal
