import SchemaJournal.Migration.Build
import SchemaJournal.Migration.Journal
import SchemaJournal.Proofs.Files.Path
import SchemaJournal.Proofs.Text.Search

/-!
# Ids and the names of documents

The id of a migration is the stem of the name of its document. The ids that a journal lists are stems of names, so they
have no slash and are not empty (`isStem_of_list`). A document that is found under an id has it if and only if the id is
such a stem (`id_of_find_iff`). The id that a time and a valid name give is one (`Migration.isStem_idOf`).
-/

namespace SchemaJournal

namespace Journal

/-! ## Documents and their ids -/

variable {j : Journal} {files : FileTree} {m : Migration} {id : String}

theorem map_of_mapM_ok {α β : Type} {f : α → Except Error β} {xs : List α} {ys : List β} (h : xs.mapM f = .ok ys) :
    xs.map f = ys.map .ok := by
  induction xs generalizing ys with
  | nil =>
    cases h
    rfl
  | cons x xs ih =>
    rw [List.mapM_cons] at h
    cases hx : f x with
    | error e =>
      rw [hx] at h
      cases h
    | ok y =>
      cases hxs : xs.mapM f with
      | error e =>
        rw [hx, hxs] at h
        cases h
      | ok ys' =>
        rw [hx, hxs] at h
        cases h
        rw [List.map_cons, List.map_cons, hx, ih hxs]

/-- What is read from a list was read from one of its members. -/
theorem mem_of_mapM_ok {α β : Type} {f : α → Except Error β} {xs : List α} {ys : List β} {y : β}
    (h : xs.mapM f = .ok ys) (hy : y ∈ ys) : ∃ x ∈ xs, f x = .ok y := by
  have hmem : .ok y ∈ xs.map f := map_of_mapM_ok h ▸ List.mem_map_of_mem hy
  exact List.mem_map.mp hmem

/-- What is read from a list was read from all of its members. -/
theorem exists_of_mapM_ok {α β : Type} {f : α → Except Error β} {xs : List α} {ys : List β} {x : α}
    (h : xs.mapM f = .ok ys) (hx : x ∈ xs) : ∃ y ∈ ys, f x = .ok y := by
  have hmem : f x ∈ ys.map .ok := map_of_mapM_ok h ▸ List.mem_map_of_mem hx
  obtain ⟨y, hy, hf⟩ := List.mem_map.mp hmem
  exact ⟨y, hy, hf.symm⟩

/-- A list is read if all of its members are. -/
theorem exists_mapM_ok {α β : Type} {f : α → Except Error β} {xs : List α} (h : ∀ x ∈ xs, ∃ y, f x = .ok y) :
    ∃ ys, xs.mapM f = .ok ys := by
  induction xs with
  | nil => exact ⟨[], rfl⟩
  | cons x xs ih =>
    obtain ⟨hx, hxs⟩ := List.forall_mem_cons.mp h
    obtain ⟨y, hy⟩ := hx
    obtain ⟨ys, hys⟩ := ih hxs
    refine ⟨y :: ys, ?_⟩
    rw [List.mapM_cons, hy, hys]
    rfl

theorem id_of_load {path : Path} (h : load files path = .ok m) : m.id = path.stem := by
  unfold load at h
  split at h
  · cases h
  split at h
  · cases h
  split at h
  next hid =>
    cases h
    exact hid
  · cases h

/-- What reads all members of a list in turn reads the list. -/
theorem mapM_of_map_ok {α β : Type} {f : α → Except Error β} {xs : List α} {ys : List β} (h : xs.map f = ys.map .ok) :
    xs.mapM f = .ok ys := by
  induction xs generalizing ys with
  | nil =>
    cases ys with
    | nil => rfl
    | cons y ys => cases h
  | cons x xs ih =>
    cases ys with
    | nil => cases h
    | cons y ys =>
      obtain ⟨hx, hxs⟩ := List.cons.inj h
      rw [List.mapM_cons, hx, ih hxs]
      rfl

/-- Migrations that were read from documents have their stems as ids. -/
theorem ids_of_mapM {paths : List Path} {read : List Migration} (h : paths.mapM (load files) = .ok read) :
    read.map (·.id) = paths.map Path.stem := by
  have hmap := map_of_mapM_ok h
  clear h
  induction paths generalizing read with
  | nil =>
    cases read with
    | nil => rfl
    | cons m read => cases hmap
  | cons path paths ih =>
    cases read with
    | nil => cases hmap
    | cons m read =>
      obtain ⟨hload, hrest⟩ := List.cons.inj hmap
      rw [List.map_cons, List.map_cons, id_of_load hload, ih hrest]

/-- What is listed is what is read from the documents in the directory. -/
theorem list_of_documents {names : List String} {read : List Migration} (hnames : files.list j.directory = .ok names)
    (hread : (j.documents files names).mapM (load files) = .ok read) :
    j.list files = .ok (read.mergeSort Migration.before) := by
  unfold list
  rw [hnames]
  show ((j.documents files names).mapM (load files) >>= fun read => pure (read.mergeSort Migration.before)) = _
  rw [hread]
  rfl

/-- Nothing is listed of a directory that is missing, and otherwise what is read from the documents in it. -/
theorem list_cases {migrations : List Migration} (h : j.list files = .ok migrations) :
    (files.list j.directory = .error .notFound ∧ migrations = []) ∨
      ∃ names read, files.list j.directory = .ok names ∧ (j.documents files names).mapM (load files) = .ok read ∧
        migrations = read.mergeSort Migration.before := by
  cases hnames : files.list j.directory with
  | error e =>
    unfold list at h
    rw [hnames] at h
    cases e <;> cases h
    exact .inl ⟨rfl, rfl⟩
  | ok names =>
    cases hread : (j.documents files names).mapM (load files) with
    | error e =>
      unfold list at h
      rw [hnames] at h
      replace h : ((j.documents files names).mapM (load files) >>= fun read =>
        pure (read.mergeSort Migration.before)) = .ok migrations := h
      rw [hread] at h
      cases h
    | ok read =>
      cases (list_of_documents hnames hread).symm.trans h
      exact .inr ⟨names, read, rfl, hread, rfl⟩

/-- The ids that a journal lists are stems. -/
theorem isStem_of_list {migrations : List Migration} (h : j.list files = .ok migrations) (hm : m ∈ migrations) :
    Path.IsStem m.id := by
  rcases list_cases h with ⟨-, rfl⟩ | ⟨names, read, -, hread, rfl⟩
  · exact absurd hm List.not_mem_nil
  · obtain ⟨path, hpath, hload⟩ := mem_of_mapM_ok hread ((List.mergeSort_perm _ _).mem_iff.mp hm)
    have hdoc := (List.mem_filter.mp hpath).2
    rw [id_of_load hload]
    exact Path.isStem_stem (beq_iff_eq.mp (Bool.and_eq_true_iff.mp hdoc).2)

/-- What is found under an id has the stem of the document as its id. -/
theorem stem_of_find (h : j.find files id = .ok (some m)) : m.id = (j.path id).stem := by
  unfold find at h
  split at h
  · cases hl : load files (j.path id) with
    | error e =>
      rw [hl] at h
      cases h
    | ok m' =>
      rw [hl] at h
      cases h
      exact id_of_load hl
  · cases h

/-- A migration that is found under a stem has it as its id. -/
theorem id_of_find (hid : Path.IsStem id) (h : j.find files id = .ok (some m)) : m.id = id :=
  (stem_of_find h).trans (Path.stem_join j.directory hid)

/-- A migration that is found has the id that was asked for if and only if this is a stem. -/
theorem id_of_find_iff (h : j.find files id = .ok (some m)) : m.id = id ↔ Path.IsStem id := by
  rw [stem_of_find h]
  exact Path.stem_join_iff j.directory

end Journal

/-! ## Ids of times and names -/

namespace Migration

variable {name : String}

theorem isNameChar_of_checkName (h : checkName name = .ok ()) {c : Char} (hc : c ∈ name.toList) :
    isNameChar c = true := by
  unfold checkName at h
  split at h
  · cases h
  split at h
  · cases h
  next hfind => simpa using List.find?_eq_none.mp hfind c hc

/-- The id that a time and a valid name give is a stem. -/
theorem isStem_idOf (h : checkName name = .ok ()) (timestamp : Int64) : Path.IsStem (idOf timestamp name) := by
  have hid : (idOf timestamp name).toList = (toString timestamp.toInt).toList ++ '_' :: name.toList := by
    simp [idOf]
  refine ⟨by simp [hid], ?_⟩
  rw [hid, List.mem_append, List.mem_cons]
  rintro (hmem | hmem | hmem)
  · exact (Text.mem_toString hmem).elim (by decide) (by decide)
  · exact absurd hmem (by decide)
  · exact absurd (isNameChar_of_checkName h hmem) (by decide)

end Migration

end SchemaJournal
