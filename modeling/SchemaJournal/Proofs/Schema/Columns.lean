import Mathlib.Data.List.Forall2
import Mathlib.Data.List.Nodup
import SchemaJournal.Proofs.Json.Members
import SchemaJournal.Proofs.Schema.Document

/-!
# Reading the columns of a table

The columns of a table are read one after the other, and a column with the name of an earlier one is refused
(`columnStep_eq`). So an object that declares columns is read as these columns in their order, up to the first name
that repeats (`foldMembers_columnStep`). In a table that was read every column is found under its name
(`columns_read_distinct`).
-/

namespace SchemaJournal.Table

open Json

variable {limit : Nat} {members : List (Spelling × Outline)} {columns done : List (String × Column)} {key : Spelling}
  {name : String} {value : Outline} {c : Column}

/-- The members of an object declare columns: a key spells the name of a column, and the value is its definition. -/
def Declares (limit : Nat) (members : List (Spelling × Outline)) (columns : List (String × Column)) : Prop :=
  List.Forall₂ (fun m column => m.1.string? = some column.1 ∧ Column.read limit m.2 = .ok column.2) members columns

/-! ## One column after the other -/

/-- A column is appended, unless an earlier one has its name. -/
theorem columnStep_eq (done : List (String × Column)) (name : String) (hvalue : Column.read limit value = .ok c) :
    columnStep limit done name value =
      if name ∈ done.map (·.1) then .error (.duplicate "column" name) else .ok (done ++ [(name, c)]) := by
  have hany : done.any (·.1 == name) = true ↔ name ∈ done.map (·.1) := by simp
  unfold columnStep
  rw [hvalue]
  by_cases h : name ∈ done.map (·.1)
  · rw [if_pos h]
    show (if _ then _ else _) = _
    rw [if_pos (hany.mpr h)]
    rfl
  · rw [if_neg h]
    show (if _ then _ else _) = _
    rw [if_neg (hany.not.mpr h)]
    rfl

theorem foldMembers_columnStep_cons (hname : key.string? = some name) (hvalue : Column.read limit value = .ok c)
    (done : List (String × Column)) (rest : List (Spelling × Outline)) :
    foldMembers (columnStep limit) done (.ofList ((key, value) :: rest)) =
      if name ∈ done.map (·.1) then .error (.duplicate "column" name)
      else foldMembers (columnStep limit) (done ++ [(name, c)]) (.ofList rest) := by
  rw [Members.ofList, foldMembers, readSpelled_eq_ok_iff.mpr hname]
  show (columnStep limit done name value).bind _ = _
  rw [columnStep_eq done name hvalue]
  split <;> rfl

/-- Columns are read up to the first one with the name of an earlier one. -/
theorem foldMembers_columnStep (h : Declares limit members columns) (done : List (String × Column))
    (hdone : (done.map (·.1)).Nodup) :
    (((done ++ columns).map (·.1)).Nodup ∧
      foldMembers (columnStep limit) done (.ofList members) = .ok (done ++ columns)) ∨
    ∃ before column after, columns = before ++ column :: after ∧ ((done ++ before).map (·.1)).Nodup ∧
      column.1 ∈ (done ++ before).map (·.1) ∧
      foldMembers (columnStep limit) done (.ofList members) = .error (.duplicate "column" column.1) := by
  induction h generalizing done with
  | nil =>
    rw [List.append_nil]
    exact .inl ⟨hdone, rfl⟩
  | @cons member column members columns hmember _ ih =>
    obtain ⟨key, value⟩ := member
    obtain ⟨name, c⟩ := column
    rw [foldMembers_columnStep_cons hmember.1 hmember.2]
    by_cases hname : name ∈ done.map (·.1)
    · refine .inr ⟨[], (name, c), columns, rfl, ?_, ?_, if_pos hname⟩
      · rwa [List.append_nil]
      · rwa [List.append_nil]
    · rw [if_neg hname]
      have hnew : ((done ++ [(name, c)]).map (·.1)).Nodup := nodup_keys_concat hdone (by simpa using hname)
      rcases ih _ hnew with ⟨hnodup, hread⟩ | ⟨before, column, after, rfl, hnodup, hmem, hread⟩
      · rw [List.append_assoc] at hnodup hread
        exact .inl ⟨hnodup, hread⟩
      · rw [List.append_assoc] at hnodup hmem
        exact .inr ⟨(name, c) :: before, column, after, rfl, hnodup, hmem, hread⟩

/-! ## Columns of tables -/

/-- The columns of a table that was read have names of their own. -/
theorem nodup_columns_of_read {o : Outline} {t : Table} (h : Table.read limit o = .ok t) :
    (t.columns.map (·.1)).Nodup := by
  have hfits := isCodec.gives o limit t h
  match limit with
  | 0 => exact hfits.elim
  | 1 => exact (fits_toValue_iff.mp hfits).elim
  | limit + 2 => exact (fits_columnsToValue_iff.mp (fits_toValue_iff.mp hfits)).1

/-- If the names differ, every column is found under its name. -/
theorem column?_of_nodup {t : Table} (hnodup : (t.columns.map (·.1)).Nodup) {column : String × Column}
    (hmem : column ∈ t.columns) : t.column? column.1 = some column.2 := by
  obtain ⟨before, after, hsplit⟩ := List.append_of_mem hmem
  rw [hsplit, List.map_append, List.map_cons, List.nodup_middle, List.nodup_cons] at hnodup
  rw [column?, List.lookup_eq_some_iff]
  refine ⟨before, after, hsplit, fun other hother => ?_⟩
  rw [bne_iff_ne]
  rintro hname
  exact hnodup.1 (List.mem_append_left _ (hname ▸ List.mem_map_of_mem hother))

/-- **Reading columns.** An object that declares columns is read if and only if their names differ, and then as these
columns in their order; otherwise the first name that repeats an earlier one is reported. So in every table that was
read each column is found under its name. -/
theorem columns_read_distinct :
    (∀ limit members columns, Declares limit members columns →
      ((∃ result, readColumns (limit + 1) (.object (.ofList members)) = .ok result) ↔ (columns.map (·.1)).Nodup) ∧
      (∀ result, readColumns (limit + 1) (.object (.ofList members)) = .ok result → result = columns) ∧
      (¬(columns.map (·.1)).Nodup → ∃ before column after, columns = before ++ column :: after ∧
        (before.map (·.1)).Nodup ∧ column.1 ∈ before.map (·.1) ∧
        readColumns (limit + 1) (.object (.ofList members)) = .error (.duplicate "column" column.1))) ∧
    ∀ limit o t, Table.read limit o = .ok t → ∀ column ∈ t.columns, t.column? column.1 = some column.2 := by
  refine ⟨fun limit members columns h => ?_, fun limit o t ht column hmem => ?_⟩
  · have hread : readColumns (limit + 1) (.object (.ofList members)) =
        foldMembers (columnStep limit) [] (.ofList members) := rfl
    rw [hread]
    rcases foldMembers_columnStep h [] List.nodup_nil with
      ⟨hnodup, hok⟩ | ⟨before, column, after, rfl, hnodup, hmem, herror⟩
    · rw [hok]
      refine ⟨iff_of_true ⟨_, rfl⟩ hnodup, ?_, fun hnot => absurd hnodup hnot⟩
      rintro _ ⟨⟩
      rfl
    · have hnot : ¬((before ++ column :: after).map (·.1)).Nodup := by
        rw [List.map_append, List.map_cons, List.nodup_middle, List.nodup_cons]
        exact fun hdistinct => hdistinct.1 (List.mem_append_left _ hmem)
      rw [herror]
      exact ⟨iff_of_false nofun hnot, nofun, fun _ => ⟨before, column, after, rfl, hnodup, hmem, rfl⟩⟩
  · exact column?_of_nodup (nodup_columns_of_read ht) hmem

/-- The columns of a table, the second one with an escape in its name. -/
def respelled : String :=
  "\x7b\"a\": \x7b\"type\": \"uuid\"\x7d, \"\\u0062\": [\"json\", true], \"b\": \x7b\"type\": \"date\"\x7d\x7d"

/-- What the second and the third name spell is the same. -/
theorem respelled_repeats : ∃ members columns, IsObject respelled members ∧ Declares 1 members columns ∧
    columns.map (·.1) = ["a", "b", "b"] ∧
    readColumns 2 (.object (.ofList members)) = .error (.duplicate "column" "b") := by
  let type (name : String) : Members := .ofList [(.written "type", .string (.written name))]
  let members : List (Spelling × Outline) := [([.char 'a'], .object (type "uuid")),
    ([.unit 0x62], .array (.item (.string (.written "json")) (.item (.bool true) .closed))),
    ([.char 'b'], .object (type "date"))]
  let columns : List (String × Column) :=
    [("a", .ofType .uuid), ("b", { Column.ofType .json with nullable := true }), ("b", .ofType .date)]
  have htokens : Token.ofChars respelled.toList = [.openObject, .string [.char 'a'], .colon, .openObject,
      .string (.written "type"), .colon, .string (.written "uuid"), .closeObject, .comma, .string [.unit 0x62], .colon,
      .openArray, .string (.written "json"), .comma, .bool true, .closeArray, .comma, .string [.char 'b'], .colon,
      .openObject, .string (.written "type"), .colon, .string (.written "date"), .closeObject, .closeObject] := by
    decide +kernel
  have hobject : IsObject respelled members := by
    rw [IsObject, htokens]
    rfl
  have hdeclares : Declares 1 members columns :=
    .cons ⟨rfl, rfl⟩ (.cons ⟨rfl, rfl⟩ (.cons ⟨rfl, rfl⟩ .nil))
  obtain ⟨before, column, after, hsplit, hnodup, hmem, herror⟩ :=
    (columns_read_distinct.1 1 members columns hdeclares).2.2 (by decide)
  refine ⟨members, columns, hobject, hdeclares, rfl, ?_⟩
  have hnames : ["a", "b", "b"] = before.map (·.1) ++ column.1 :: after.map (·.1) := by
    rw [← List.map_cons, ← List.map_append, ← hsplit]
    rfl
  generalize before.map (·.1) = earlier at hmem hnames
  generalize column.1 = name at hmem hnames herror
  generalize after.map (·.1) = later at hnames
  -- The first name that repeats is the third one.
  match earlier, hnames with
  | [], _ => cases hmem
  | [_], hnames =>
    cases hnames
    exact absurd hmem (by decide)
  | [_, _], hnames =>
    cases hnames
    exact herror
  | _ :: _ :: _ :: _, hnames => simp at hnames

end SchemaJournal.Table
