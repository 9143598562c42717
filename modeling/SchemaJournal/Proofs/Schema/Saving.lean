import SchemaJournal.Proofs.Files.Tree
import SchemaJournal.Proofs.Schema.Document
import SchemaJournal.Proofs.Schema.Editing

/-!
# Schemas that were saved

What an editor saves is valid, but a valid schema need not have a document that can be read: its defaults may be nested
too deep for a reader, and the columns of a table may repeat a name (`Schema.fits_iff_columns`). If its doubles are
legible, these are the only reasons why a saved schema is not opened as it was (`Editor.openAt_eq_ok_iff_fits`). What
has none of them is opened as it was (`Editor.openAt_save`).
-/

namespace SchemaJournal

open Json

/-! ## Schemas that fit -/

/-- The containers around a default: the schema, its tables, the table, its columns, and the column. -/
def containersAround : Nat := 5

namespace Schema

/-- A schema fits if the columns of each table have names of their own and the defaults are not nested too deep. -/
theorem fits_iff_columns {s : Schema} {limit : Nat} : s.toValue.Fits (limit + 1 + containersAround) ↔
    ∀ t ∈ s.tables, (t.columns.map (·.1)).Nodup ∧ ∀ c ∈ t.columns, ∀ v ∈ c.2.default, v.Fits (limit + 1) := by
  have hcolumn : ∀ c : Column, c.toValue.Fits (limit + 2) ↔ ∀ v ∈ c.default, v.Fits (limit + 1) := fun c =>
    Column.fits_toValue_iff.trans (and_iff_left fun r _ => r.fits_toValue limit)
  have htable : ∀ t : Table, t.toValue.Fits (limit + 4) ↔
      (t.columns.map (·.1)).Nodup ∧ ∀ c ∈ t.columns, ∀ v ∈ c.2.default, v.Fits (limit + 1) := by
    intro t
    rw [Table.fits_toValue_iff, Table.fits_columnsToValue_iff]
    simp only [hcolumn]
  have htables : s.toValue.Fits (limit + 6) ↔ Value.ItemsFit (s.tables.map Table.toValue) (limit + 4) :=
    fits_toValue_iff
  refine htables.trans ?_
  rw [Value.itemsFit_iff, List.forall_mem_map]
  simp only [htable]

end Schema

namespace Editor

variable {editor : Editor} {before after later : FileTree}

/-- Makes the directories that the document needs. -/
def prepare (path : Path) (files : FileTree) : Except FileError Unit × FileTree :=
  match path.parent? with
  | some parent => FileTree.createDirectories parent files
  | none => (.ok (), files)

/-- Saving checks the schema, makes directories, and writes the document. -/
theorem save_eq (editor : Editor) : editor.save = (do
    Attempt.ofExcept editor.schema.check
    Attempt.restate FileError.toError (prepare editor.path)
    Attempt.restate FileError.toError
      (Attempt.updating fun files => files.write editor.path editor.schema.toValue.pretty.toUTF8)) := by
  unfold save prepare
  cases editor.path.parent? <;> rfl

/-- Saving writes the document of a valid schema. -/
theorem save_ok (h : editor.save before = (.ok (), after)) :
    editor.schema.check = .ok () ∧ after.readText editor.path = .ok editor.schema.toValue.pretty := by
  rw [save_eq] at h
  obtain ⟨_, between, hcheck, h⟩ := Attempt.bind_eq_ok h
  obtain ⟨_, made, -, h⟩ := Attempt.bind_eq_ok h
  exact ⟨congrArg Prod.fst hcheck, FileTree.readText_write (Attempt.updating_eq_ok h)⟩

/-- The schema of a document is what its text is read as, if that is valid. -/
theorem readSchema_eq_ok_iff {path : Path} {text : String} {s : Schema} (htext : later.readText path = .ok text) :
    readSchema later path = .ok s ↔ readDocument Schema.read text = .ok s ∧ s.check = .ok () := by
  unfold readSchema
  rw [htext]
  dsimp only
  cases readDocument Schema.read text with
  | error problem => exact ⟨nofun, nofun⟩
  | ok s' =>
    dsimp only
    cases hcheck : s'.check with
    | error e =>
      refine ⟨nofun, ?_⟩
      rintro ⟨⟨⟩, h⟩
      cases hcheck.symm.trans h
    | ok valid =>
      cases valid
      refine ⟨?_, fun h => congrArg Except.ok (Except.ok.inj h.1)⟩
      rintro ⟨⟩
      exact ⟨rfl, hcheck⟩

theorem openAt_eq_ok_iff_readSchema : openAt editor.path later = .ok editor ↔
    readSchema later editor.path = .ok editor.schema := by
  have hopen : openAt editor.path later = (readSchema later editor.path).map (Editor.mk editor.path) := by
    unfold openAt load
    show (do return Editor.mk editor.path (← readSchema later editor.path)) = _
    cases readSchema later editor.path <;> rfl
  rw [hopen]
  cases readSchema later editor.path with
  | error e => exact ⟨nofun, nofun⟩
  | ok s =>
    refine ⟨fun h => ?_, fun h => ?_⟩
    · cases editor
      cases h
      rfl
    · cases h
      rfl

/-- A schema that was saved is opened as it was if and only if its text is read as the schema. -/
theorem openAt_eq_ok_iff (hsave : editor.save before = (.ok (), after))
    (hlater : later.readText editor.path = after.readText editor.path) : openAt editor.path later = .ok editor ↔
    readDocument Schema.read editor.schema.toValue.pretty = .ok editor.schema := by
  obtain ⟨hcheck, htext⟩ := save_ok hsave
  rw [openAt_eq_ok_iff_readSchema, readSchema_eq_ok_iff (hlater.trans htext), and_iff_left hcheck]

/-- A saved schema whose doubles are legible is opened as it was if and only if it fits. -/
theorem openAt_eq_ok_iff_fits (hlegible : editor.schema.toValue.IsLegible)
    (hsave : editor.save before = (.ok (), after)) (hlater : later.readText editor.path = after.readText editor.path) :
    openAt editor.path later = .ok editor ↔ editor.schema.toValue.Fits nestingLimit := by
  rw [openAt_eq_ok_iff hsave hlater]
  exact ⟨Schema.isCodec.gives_readDocument _ _, fun hfit => (Schema.isCodec.rereads_of_fits hfit hlegible).pretty⟩

/-- **What was saved is opened as it was**, as long as its file keeps its text. The columns of each table need names of
their own. A default may be nested as deep as a reader goes within the containers around it, no object in it has a key
twice, and its doubles have to be legible. -/
theorem openAt_save (hdistinct : ∀ t ∈ editor.schema.tables, (t.columns.map (·.1)).Nodup)
    (hnested : ∀ t ∈ editor.schema.tables, ∀ c ∈ t.columns, ∀ v ∈ c.2.default, v.Fits (nestingLimit - containersAround))
    (hdoubles : ∀ d ∈ editor.schema.toValue.doubles, (Number.double d).IsLegible)
    (hsave : editor.save before = (.ok (), after)) (hlater : later.readText editor.path = after.readText editor.path) :
    openAt editor.path later = .ok editor := by
  have hfits : editor.schema.toValue.Fits nestingLimit :=
    Schema.fits_iff_columns.mpr fun t ht => ⟨hdistinct t ht, hnested t ht⟩
  exact (openAt_eq_ok_iff_fits (Value.isLegible_of_doubles _ hdoubles) hsave hlater).mpr hfits

/-- A table with one column, which has a default. -/
def tableOf (type : ColumnType) (value : Value) : Table :=
  (Table.named "m").withColumn "c" { Column.ofType type with default := some value }

/-- A table is put in the place of one without columns, and the schema is saved in a new directory. -/
theorem tableOf_openAt_save : ∃ editor : Editor, ∃ after : FileTree,
    editor = (Editor.new ⟨"nested/schema.json"⟩).afterAll [.add (.named "m"), .update "m"
      (tableOf .json (.array [.number (.double threeHalves)]))] ∧
    editor.save (.bare []) = (.ok (), after) ∧ after.isDirectory ⟨"nested"⟩ = true ∧
    openAt editor.path after = .ok editor := by
  let editor := (Editor.new ⟨"nested/schema.json"⟩).afterAll [.add (.named "m"), .update "m"
    (tableOf .json (.array [.number (.double threeHalves)]))]
  have hsave : editor.save (.bare []) = (.ok (), (editor.save (.bare [])).2) :=
    Prod.ext (Attempt.eq_ok_of_toOption (by decide +kernel)) rfl
  have htables : editor.schema.tables = [tableOf .json (.array [.number (.double threeHalves)])] := rfl
  refine ⟨editor, _, rfl, hsave, by decide +kernel, openAt_save ?_ ?_ ?_ hsave rfl⟩
  · rw [htables]
    decide
  · rw [htables, List.forall_mem_singleton]
    rintro c hc v hv
    cases List.mem_singleton.mp hc
    cases hv
    exact ⟨trivial, trivial⟩
  · show ∀ d ∈ [threeHalves], (Number.double d).IsLegible
    exact List.forall_mem_singleton.mpr isLegible_threeHalves

/-- Arrays in one another, below the outermost one. -/
def nested : Nat → Value
  | 0 => .array []
  | n + 1 => .array [nested n]

theorem lt_of_fits_nested {n limit : Nat} (h : (nested n).Fits limit) : n < limit := by
  induction n generalizing limit with
  | zero =>
    cases limit with
    | zero => exact h.elim
    | succ limit => exact Nat.zero_lt_succ limit
  | succ n ih =>
    cases limit with
    | zero => exact h.elim
    | succ limit => exact Nat.succ_lt_succ (ih h.1)

/-- A double that is read as the one before it. -/
def blurred : Double := ⟨false, 5444517870735016, -132, by decide⟩

/-- An editor that added a table saves its schema, and the document is not opened as the editor was. -/
def Loses (t : Table) : Prop :=
  ∃ editor : Editor, ∃ after : FileTree, editor = (Editor.new ⟨"schema.json"⟩).afterAll [.add t] ∧
    editor.save (.bare []) = (.ok (), after) ∧ openAt editor.path after ≠ .ok editor

theorem Loses.of_save {t : Table}
    (hsaves : (((Editor.new ⟨"schema.json"⟩).afterAll [.add t]).save (.bare [])).1.toOption = some ())
    (hread : readDocument Schema.read (Schema.toValue ⟨[t]⟩).pretty ≠ .ok ⟨[t]⟩) : Loses t := by
  let editor := (Editor.new ⟨"schema.json"⟩).afterAll [.add t]
  have hsave : editor.save (.bare []) = (.ok (), (editor.save (.bare [])).2) :=
    Prod.ext (Attempt.eq_ok_of_toOption hsaves) rfl
  exact ⟨editor, _, rfl, hsave, fun hopen => hread ((openAt_eq_ok_iff hsave rfl).mp hopen)⟩

/-- Not everything that was saved is opened as it was: a default that is nested one level too deep, a double that is
not legible, or a second column of one name is lost. -/
theorem not_openAt_save : Loses (tableOf .json (nested 122)) ∧ Loses (tableOf .number (.number (.double blurred))) ∧
    Loses (((Table.named "m").withColumn "c" (.ofType .number)).withColumn "c" (.ofType .json)) := by
  have hfits : ∀ t : Table, readDocument Schema.read (Schema.toValue ⟨[t]⟩).pretty = .ok ⟨[t]⟩ →
      (t.columns.map (·.1)).Nodup ∧ ∀ c ∈ t.columns, ∀ v ∈ c.2.default, v.Fits (nestingLimit - containersAround) :=
    fun t hread => Schema.fits_iff_columns.mp (Schema.isCodec.gives_readDocument _ _ hread) t List.mem_cons_self
  refine ⟨.of_save (by decide +kernel) fun hread => ?_, .of_save (by decide +kernel) fun hread => ?_,
    .of_save (by decide +kernel) fun hread => ?_⟩
  · have hdeep := lt_of_fits_nested ((hfits _ hread).2 _ List.mem_cons_self _ rfl)
    exact absurd hdeep (by decide)
  · have hdoubles := congrArg (fun r => r.toOption.map (·.toValue.doubles)) hread
    exact absurd hdoubles (by decide +kernel)
  · exact absurd (hfits _ hread).1 (by decide)

end Editor

end SchemaJournal
