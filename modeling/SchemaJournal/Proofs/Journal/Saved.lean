import SchemaJournal.Proofs.Ensures
import SchemaJournal.Proofs.Files.Tree
import SchemaJournal.Proofs.Journal.Stem
import SchemaJournal.Proofs.Migration.Document

/-!
# Saved migrations

A migration that was saved is read from its document as it was (`Saved.load`). The journal finds it under its id
(`Saved.find`) and lists it (`Saved.mem_list`).
-/

namespace SchemaJournal.Journal

/-- A migration was saved, and its document is as it was written then. -/
def Saved (j : Journal) (m : Migration) (files : FileTree) : Prop :=
  ∃ before after path, j.save m before = (.ok path, after) ∧ files.readText path = after.readText path

variable {j : Journal} {m : Migration} {files before after : FileTree} {path : Path}

/-- Saving writes the document of the migration. -/
theorem save_ok (h : j.save m before = (.ok path, after)) :
    path = j.path m.id ∧ after.readText path = .ok (document m) := by
  unfold save at h
  obtain ⟨_, between, -, h⟩ := Attempt.bind_eq_ok h
  obtain ⟨_, after', hcreate, h⟩ := Attempt.bind_eq_ok h
  cases h
  exact ⟨rfl, FileTree.readText_create (Attempt.updating_eq_ok hcreate)⟩

theorem Saved.readText (h : j.Saved m files) : files.readText (j.path m.id) = .ok (document m) := by
  obtain ⟨before, after, path, hsave, hread⟩ := h
  obtain ⟨rfl, hdocument⟩ := save_ok hsave
  exact hread.trans hdocument

theorem Saved.isFile (h : j.Saved m files) : files.isFile (j.path m.id) = true := FileTree.isFile_of_readText h.readText

/-- A saved migration is read as it was. -/
theorem Saved.load (h : j.Saved m files) (hid : Path.IsStem m.id) : load files (j.path m.id) = .ok m := by
  have hstem : (j.path m.id).stem = m.id := Path.stem_join j.directory hid
  simp only [Journal.load, h.readText, m.readDocument_document]
  exact if_pos hstem.symm

theorem Saved.find (h : j.Saved m files) (hid : Path.IsStem m.id) : j.find files m.id = .ok (some m) := by
  rw [Journal.find, if_pos h.isFile, h.load hid]
  rfl

/-- A saved migration is listed, unless nothing is. -/
theorem Saved.mem_list (h : j.Saved m files) (hid : Path.IsStem m.id) {migrations : List Migration}
    (hlist : j.list files = .ok migrations) (hne : migrations ≠ []) : m ∈ migrations := by
  rcases list_cases hlist with ⟨-, rfl⟩ | ⟨names, read, hnames, hread, rfl⟩
  · exact absurd rfl hne
  · have hname := FileTree.mem_list_of_isFile hnames (Path.isName_document hid) h.isFile
    have hdocument : j.path m.id ∈ j.documents files names := by
      have hextension : (j.path m.id).extension? = some "json" := Path.extension?_join j.directory hid
      refine List.mem_filter.mpr ⟨List.mem_map_of_mem hname, ?_⟩
      rw [isDocument, Bool.and_eq_true]
      exact ⟨h.isFile, beq_iff_eq.mpr hextension⟩
    obtain ⟨m', hm', hload⟩ := exists_of_mapM_ok hread hdocument
    cases (h.load hid).symm.trans hload
    exact (List.mergeSort_perm _ _).mem_iff.mpr hm'

end SchemaJournal.Journal
