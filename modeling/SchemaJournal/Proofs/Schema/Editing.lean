import SchemaJournal.Proofs.Schema.Validity

/-!
# Names of tables under edits

Every edit but an update leaves the names of the tables distinct: a table is added under a new name only, removing one
only takes names away, and a document is loaded only if it is valid (`Schema.nodup_of_check`). An update does not look
at the name of its new table. So the names stay distinct exactly as long as no update takes the name of another table
(`Edit.nodup_after_iff`, `names_nodup_iff`).
-/

namespace SchemaJournal

/-- The names of the tables, in order. -/
def Editor.names (editor : Editor) : List String := editor.schema.tables.map (·.name)

/-! ## Edits -/

/-- A change of the schema that an editor holds. -/
inductive Edit where
  | add (table : Table)
  | update (name : String) (table : Table)
  | remove (name : String)
  | load (files : FileTree)

namespace Edit

/-- What an edit gives. -/
def run (editor : Editor) : Edit → Except Error Editor
  | .add table => editor.add table
  | .update name table => editor.update name table
  | .remove name => .ok (editor.remove name)
  | .load files => editor.load files

/-- The editor after an edit; one that fails leaves it as it was. -/
def after (editor : Editor) (edit : Edit) : Editor :=
  match edit.run editor with
  | .ok editor' => editor'
  | .error _ => editor

theorem after_cases (editor : Editor) (edit : Edit) :
    edit.after editor = editor ∨ edit.run editor = .ok (edit.after editor) := by
  unfold after
  cases edit.run editor with
  | error e => exact .inl rfl
  | ok editor' => exact .inr rfl

/-- An update of a table keeps its name or takes a name that no table has. -/
def Spares (editor : Editor) : Edit → Prop
  | .update name table => name ∈ editor.names → table.name = name ∨ table.name ∉ editor.names
  | _ => True

end Edit

/-- The editor after some edits. -/
def Editor.afterAll (editor : Editor) (edits : List Edit) : Editor := edits.foldl Edit.after editor

/-- Where edits start: with nothing loaded, or with a document. -/
inductive Editor.IsStart : Editor → Prop
  | new (path : Path) : IsStart (.new path)
  | opened {path : Path} {files : FileTree} {editor : Editor} (h : openAt path files = .ok editor) : IsStart editor

/-! ## Valid schemas -/

/-- The names of the tables of a valid schema are distinct. -/
theorem Schema.nodup_of_check {s : Schema} (h : s.check = .ok ()) : (s.tables.map (·.name)).Nodup :=
  (check_eq_ok_iff.mp h).names

namespace Editor

variable {editor editor' : Editor} {table : Table} {name : String}

/-- What is loaded is valid, or there is no document. -/
theorem check_of_readSchema {files : FileTree} {path : Path} {s : Schema} (h : readSchema files path = .ok s) :
    s.check = .ok () := by
  unfold readSchema at h
  split at h
  · cases h
    rfl
  · cases h
  · split at h
    · cases h
    · split at h
      · cases h
      next hcheck =>
        cases h
        exact hcheck

theorem nodup_of_load {files : FileTree} (h : editor.load files = .ok editor') : editor'.names.Nodup := by
  unfold load at h
  cases hread : readSchema files editor.path with
  | error e =>
    rw [hread] at h
    cases h
  | ok s =>
    rw [hread] at h
    cases h
    exact Schema.nodup_of_check (check_of_readSchema hread)

theorem IsStart.nodup (h : editor.IsStart) : editor.names.Nodup := by
  cases h with
  | new path => exact List.nodup_nil
  | opened h => exact nodup_of_load h

theorem isSome_table?_iff : (editor.table? name).isSome = true ↔ name ∈ editor.names := by
  simp [table?, Schema.table?, names, List.find?_isSome]

theorem nodup_of_add (hnodup : editor.names.Nodup) (h : editor.add table = .ok editor') : editor'.names.Nodup := by
  unfold add at h
  split at h
  · cases h
  next hnew =>
    cases h
    rw [isSome_table?_iff] at hnew
    show ((editor.schema.tables ++ [table]).map (·.name)).Nodup
    rw [List.map_append]
    refine List.nodup_append.mpr ⟨hnodup, List.nodup_singleton _, ?_⟩
    rintro n hn m hm rfl
    rw [List.map_singleton, List.mem_singleton] at hm
    exact hnew (hm ▸ hn)

theorem nodup_remove (hnodup : editor.names.Nodup) (name : String) : (editor.remove name).names.Nodup :=
  hnodup.sublist (List.filter_sublist.map _)

/-- A table is replaced in its place, if there is one with the name. -/
theorem replaceTable_cases (name : String) (table : Table) (tables : List Table) :
    (replaceTable name table tables = none ∧ name ∉ tables.map (·.name)) ∨
      ∃ before t after, tables = before ++ t :: after ∧ t.name = name ∧
        replaceTable name table tables = some (before ++ table :: after) := by
  induction tables with
  | nil => exact .inl ⟨rfl, List.not_mem_nil⟩
  | cons t rest ih =>
    by_cases ht : t.name = name
    · exact .inr ⟨[], t, rest, rfl, ht, if_pos ht⟩
    · have hreplace : replaceTable name table (t :: rest) = (replaceTable name table rest).map (t :: ·) := if_neg ht
      rcases ih with ⟨hnone, hnot⟩ | ⟨before, t', after, rfl, ht', hsome⟩
      · refine .inl ⟨by rw [hreplace, hnone]; rfl, ?_⟩
        rw [List.map_cons, List.mem_cons, not_or]
        exact ⟨fun h => ht h.symm, hnot⟩
      · exact .inr ⟨t :: before, t', after, rfl, ht', by rw [hreplace, hsome]; rfl⟩

/-- An update changes one of the names, if it finds its table. -/
theorem names_after_update (editor : Editor) (name : String) (table : Table) :
    (name ∉ editor.names ∧ Edit.after editor (.update name table) = editor) ∨
      ∃ before after, editor.names = before ++ name :: after ∧
        (Edit.after editor (.update name table)).names = before ++ table.name :: after := by
  have hafter : Edit.after editor (.update name table) =
      match editor.update name table with | .ok e => e | .error _ => editor := rfl
  rcases replaceTable_cases name table editor.schema.tables with ⟨hnone, hnot⟩ | ⟨before, t, after, htables, ht, hsome⟩
  · rw [update, hnone] at hafter
    exact .inl ⟨hnot, hafter⟩
  · rw [update, hsome] at hafter
    refine .inr ⟨before.map (·.name), after.map (·.name), ?_, ?_⟩
    · rw [names, htables, List.map_append, List.map_cons, ht]
    · rw [hafter, names, List.map_append, List.map_cons]

/-- An update leaves the names distinct if and only if it does not take the name of another table. -/
theorem nodup_after_update_iff (hnodup : editor.names.Nodup) : (Edit.after editor (.update name table)).names.Nodup ↔
    (name ∈ editor.names → table.name = name ∨ table.name ∉ editor.names) := by
  rcases names_after_update editor name table with ⟨hnot, hsame⟩ | ⟨before, after, hnames, hnames'⟩
  · rw [hsame]
    exact ⟨fun _ hmem => absurd hmem hnot, fun _ => hnodup⟩
  · -- The names of the other tables are distinct, so all depends on whether the new name is among them.
    rw [hnames, List.nodup_middle, List.nodup_cons] at hnodup
    obtain ⟨hname, hothers⟩ := hnodup
    have hmem : ∀ n, n ∈ editor.names ↔ n = name ∨ n ∈ before ++ after := by
      intro n
      simp only [hnames, List.mem_append, List.mem_cons]
      exact or_left_comm
    rw [hnames', List.nodup_middle, List.nodup_cons, hmem, hmem, not_or]
    constructor
    · rintro ⟨hnew, -⟩ -
      by_cases hkept : table.name = name
      · exact .inl hkept
      · exact .inr ⟨hkept, hnew⟩
    · intro h
      rcases h (.inl rfl) with hkept | ⟨-, hnew⟩
      · exact ⟨hkept ▸ hname, hothers⟩
      · exact ⟨hnew, hothers⟩

/-- An edit leaves the names distinct, except for an update that takes the name of another table. -/
theorem nodup_after_iff (hnodup : editor.names.Nodup) (edit : Edit) :
    (edit.after editor).names.Nodup ↔ edit.Spares editor := by
  cases edit with
  | add table =>
    refine iff_of_true ?_ trivial
    rcases Edit.after_cases editor (.add table) with hsame | hrun
    · rwa [hsame]
    · exact nodup_of_add hnodup hrun
  | update name table => exact nodup_after_update_iff hnodup
  | remove name => exact iff_of_true (nodup_remove hnodup name) trivial
  | load files =>
    refine iff_of_true ?_ trivial
    rcases Edit.after_cases editor (.load files) with hsame | hrun
    · rwa [hsame]
    · exact nodup_of_load hrun

/-! ## Runs of edits -/

theorem afterAll_take_succ (editor : Editor) {edits : List Edit} {i : Nat} (hi : i < edits.length) :
    editor.afterAll (edits.take (i + 1)) = edits[i].after (editor.afterAll (edits.take i)) := by
  rw [afterAll, afterAll, List.take_succ_eq_append_getElem hi, List.foldl_append]
  rfl

/-- **Names of tables under edits.** The names of the tables stay distinct during a run of edits if and only if none of
its updates gives a table the name of another one. -/
theorem names_nodup_iff (hstart : editor.IsStart) (edits : List Edit) :
    (∀ i, (editor.afterAll (edits.take i)).names.Nodup) ↔
      ∀ i (hi : i < edits.length), edits[i].Spares (editor.afterAll (edits.take i)) := by
  constructor
  · intro h i hi
    have hafter := h (i + 1)
    rw [afterAll_take_succ editor hi] at hafter
    exact (nodup_after_iff (h i) _).mp hafter
  · intro h i
    induction i with
    | zero => exact hstart.nodup
    | succ i ih =>
      by_cases hi : i < edits.length
      · rw [afterAll_take_succ editor hi]
        exact (nodup_after_iff ih _).mpr (h i hi)
      · rw [List.take_of_length_le (by omega)] at ih
        rwa [List.take_of_length_le (by omega)]

/-- Two tables are added, the second one a second time in vain, and the first one is renamed. -/
theorem names_nodup_of_rename : (Editor.new ⟨"schema.json"⟩).IsStart ∧
    ∀ i, ((Editor.new ⟨"schema.json"⟩).afterAll ([.add (.named "a"), .add (.named "b"), .add (.named "b"),
      .update "a" (.named "c")].take i)).names.Nodup := by
  refine ⟨.new _, (names_nodup_iff (.new _) _).mpr fun i hi => ?_⟩
  match i, hi with
  | 0, _ => exact trivial
  | 1, _ => exact trivial
  | 2, _ => exact trivial
  | 3, _ => exact fun _ => .inr (by decide)

/-- An update can give a table the name of another one. -/
theorem not_names_nodup : (Editor.new ⟨"schema.json"⟩).IsStart ∧
    ¬((Editor.new ⟨"schema.json"⟩).afterAll
      [.add (.named "a"), .add (.named "b"), .update "a" (.named "b")]).names.Nodup :=
  ⟨.new _, by decide⟩

end Editor

end SchemaJournal
