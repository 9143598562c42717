import SchemaJournal.Proofs.Ensures
import SchemaJournal.Proofs.Json.Codec
import SchemaJournal.Proofs.Migration.Document
import SchemaJournal.Schema.Codec

/-!
# Documents of schemas

Each part of a schema has a codec, from references to whole schemas: what is not written, a flag that is not set or an
option that is absent, is what a reader takes for it when it is left off. Not every table can be read back, because its
columns need names of their own (`Table.fits_columnsToValue_iff`), but every table that was read can. So no document
loses anything (`documents_reread`).
-/

namespace SchemaJournal

open Json

/-! ## Flags -/

/-- What is read of a flag: nothing if it is not set. -/
def flagged (flag : Bool) : Option Bool := if flag then some true else none

theorem getD_flagged (flag : Bool) : (flagged flag).getD false = flag := by cases flag <;> rfl

theorem Json.Folds.flag {δ : Type} {step : δ → String → Outline → Except Problem δ} {key : String}
    {flag : Bool} (set : Option Bool → δ) (h : step (set none) key (.bool true) = .ok (set (some true))) :
    Folds step (set none) (flagMember key flag) (set (flagged flag)) := by
  cases flag with
  | false => exact .nil
  | true => exact .cons h .nil

theorem join_map_some {α : Type} (x : Option α) : (x.map some).join = x := by cases x <;> rfl

theorem forall_join {α : Type} {P : α → Prop} {x : Option (Option α)} (h : ∀ y ∈ x, ∀ a ∈ y, P a) :
    ∀ a ∈ x.join, P a := by
  cases x with
  | none => exact nofun
  | some y => exact h y rfl

theorem keys_flagMember (key : String) (flag : Bool) : ((flagMember key flag).map (·.1)).Sublist [key] := by
  cases flag with
  | false => exact List.nil_sublist _
  | true => exact List.Sublist.refl _

theorem keys_option {α : Type} (key : String) (value : α → Value) (x : Option α) :
    ((x.map fun a => (key, value a)).toList.map (·.1)).Sublist [key] := by
  cases x with
  | none => exact List.nil_sublist _
  | some a => exact List.Sublist.refl _

theorem forall_flagMember {P : Value → Prop} (key : String) (flag : Bool) (hbool : P (.bool true)) :
    ∀ m ∈ flagMember key flag, P m.2 := by
  cases flag with
  | false => exact nofun
  | true =>
    intro m hm
    cases List.mem_singleton.mp hm
    exact hbool

theorem forall_option {α : Type} {P : Value → Prop} (key : String) (value : α → Value) (x : Option α) :
    (∀ m ∈ (x.map fun a => (key, value a)).toList, P m.2) ↔ ∀ a ∈ x, P (value a) := by
  cases x with
  | none => exact ⟨fun _ => nofun, fun _ => nofun⟩
  | some a => simp

/-! ## Types and rules -/

theorem ColumnType.isCodec : IsCodec toValue read :=
  .variant fun t => by cases t <;> decide

theorem DeleteRule.isCodec : IsCodec toValue read :=
  .variant fun r => by cases r <;> decide

/-! ## References -/

namespace Reference

/-- The members of a written reference. -/
def members (r : Reference) : List (String × Value) :=
  [("table", .string r.table), ("column", .string r.column)] ++
    (r.onDelete.map fun rule => ("onDelete", rule.toValue)).toList

theorem fits_toValue (r : Reference) (limit : Nat) : r.toValue.Fits (limit + 1) := by
  have hkeys : (r.members.map (·.1)).Sublist ["table", "column", "onDelete"] := by
    rw [members, List.map_append]
    exact (List.Sublist.refl ["table", "column"]).append (keys_option _ _ _)
  refine ⟨hkeys.nodup (by decide), ?_⟩
  cases hrule : r.onDelete with
  | none => exact ⟨trivial, trivial, trivial⟩
  | some rule => exact ⟨trivial, trivial, trivial, trivial⟩

theorem folds (r : Reference) (limit : Nat) :
    Folds (Draft.step limit) ⟨none, none, none⟩ r.members ⟨some r.table, some r.column, r.onDelete.map some⟩ := by
  have htable : Draft.step limit ⟨none, none, none⟩ "table" (.string (.written r.table)) =
      .ok ⟨some r.table, none, none⟩ := by
    simp only [Draft.step, readField, readString, readSpelled_written]
    rfl
  have hcolumn : Draft.step limit ⟨some r.table, none, none⟩ "column" (.string (.written r.column)) =
      .ok ⟨some r.table, some r.column, none⟩ := by
    simp only [Draft.step, readField, readString, readSpelled_written]
    rfl
  refine Folds.append (.cons htable (.cons hcolumn .nil))
    (Folds.optional (fun x => Draft.mk (some r.table) (some r.column) x) fun rule _ => ?_)
  have hrule := DeleteRule.isCodec.reads rule limit trivial trivial
  simp only [Draft.step, readField, readOptional_of_ne (by rintro ⟨⟩) hrule]
  rfl

theorem isCodec : IsCodec toValue read where
  reads
    | r, limit + 1, _, _ => by
      show (do (← foldMembers (Draft.step limit) ⟨none, none, none⟩ (Value.membersOutline r.members)).finish) = _
      rw [r.folds limit]
      show Except.ok (ε := Problem) (⟨r.table, r.column, (r.onDelete.map some).join⟩ : Reference) = _
      rw [join_map_some]
  gives := gives_readRecord (P := fun (r : Reference) limit => r.toValue.Fits limit)
    (fun limit _ r _ => r.fits_toValue limit) fun limit _ r _ => r.fits_toValue limit

end Reference

/-! ## Columns -/

namespace Column

/-- The members of a written column. -/
def members (c : Column) : List (String × Value) :=
  [("type", c.type.toValue)] ++ flagMember "nullable" c.nullable ++ flagMember "unique" c.unique ++
    flagMember "primary" c.primary ++ (c.default.map fun value => ("default", value)).toList ++
    (c.references.map fun reference => ("references", reference.toValue)).toList

theorem nodup_members (c : Column) : (c.members.map (·.1)).Nodup := by
  have hkeys : (c.members.map (·.1)).Sublist ["type", "nullable", "unique", "primary", "default", "references"] := by
    simp only [members, List.map_append]
    exact ((((((List.Sublist.refl ["type"]).append (keys_flagMember _ _)).append (keys_flagMember _ _)).append
      (keys_flagMember _ _)).append (keys_option _ _ _)).append (keys_option _ _ _))
  exact hkeys.nodup (by decide)

/-- What a column is made of, apart from its type and flags. -/
theorem forall_members {c : Column} {P : Value → Prop} (hstring : ∀ s, P (.string s)) (hbool : P (.bool true)) :
    (∀ m ∈ c.members, P m.2) ↔ (∀ v ∈ c.default, P v) ∧ ∀ r ∈ c.references, P r.toValue := by
  have hflag : ∀ key flag, ∀ m ∈ flagMember key flag, P m.2 := fun key flag => forall_flagMember key flag hbool
  have htype : ∀ m ∈ [("type", c.type.toValue)], P m.2 := List.forall_mem_singleton.mpr (hstring _)
  rw [← forall_option "default" (fun v => v) c.default, ← forall_option "references" Reference.toValue c.references]
  simp only [members, List.forall_mem_append]
  exact ⟨fun h => ⟨h.1.2, h.2⟩, fun h => ⟨⟨⟨⟨⟨htype, hflag _ _⟩, hflag _ _⟩, hflag _ _⟩, h.1⟩, h.2⟩⟩

theorem fits_toValue_iff {c : Column} {limit : Nat} : c.toValue.Fits (limit + 1) ↔
    (∀ v ∈ c.default, v.Fits limit) ∧ ∀ r ∈ c.references, r.toValue.Fits limit := by
  have hmembers : c.toValue.Fits (limit + 1) ↔ ∀ m ∈ c.members, m.2.Fits limit :=
    Value.fits_object_iff.trans (and_iff_right c.nodup_members)
  exact hmembers.trans (forall_members (P := fun v => v.Fits limit) (fun _ => trivial) trivial)

theorem isLegible_toValue_iff {c : Column} : c.toValue.IsLegible ↔
    (∀ v ∈ c.default, v.IsLegible) ∧ ∀ r ∈ c.references, r.toValue.IsLegible :=
  Value.membersLegible_iff.trans (forall_members (P := Value.IsLegible) (fun _ => trivial) trivial)

theorem folds (c : Column) {limit : Nat} (hfit : c.toValue.Fits (limit + 1)) (hlegible : c.toValue.IsLegible) :
    Folds (Draft.step limit) ⟨none, none, none, none, none, none⟩ c.members
      ⟨some c.type, flagged c.nullable, flagged c.unique, flagged c.primary, c.default.map fun v => v,
        c.references.map some⟩ := by
  rw [fits_toValue_iff] at hfit
  rw [isLegible_toValue_iff] at hlegible
  have htype : Draft.step limit ⟨none, none, none, none, none, none⟩ "type" c.type.toValue.outline =
      .ok ⟨some c.type, none, none, none, none, none⟩ := by
    simp only [Draft.step, readField, ColumnType.isCodec.reads c.type limit trivial trivial]
    rfl
  let n := flagged c.nullable
  let u := flagged c.unique
  let p := flagged c.primary
  let value := c.default.map fun v => v
  refine Folds.append (.append (.append (.append (.append (.cons htype .nil)
    (.flag (fun x => Draft.mk (some c.type) x none none none none) rfl))
    (.flag (fun x => Draft.mk (some c.type) n x none none none) rfl))
    (.flag (fun x => Draft.mk (some c.type) n u x none none) rfl))
    (.optional (fun x => Draft.mk (some c.type) n u p x none) fun v hv => ?_))
    (.optional (fun x => Draft.mk (some c.type) n u p value x) fun r hr => ?_)
  · simp only [Draft.step, readField, Value.read_outline v limit (hfit.1 v hv) (hlegible.1 v hv)]
    rfl
  · have hreference := Reference.isCodec.reads r limit (hfit.2 r hr) (hlegible.2 r hr)
    simp only [Draft.step, readField, readOptional_of_ne (by rintro ⟨⟩) hreference]
    rfl

/-- The parts of a column that were read fit below it. -/
structure Draft.Fits (limit : Nat) (d : Draft) : Prop where
  default : ∀ v ∈ d.default, v.Fits limit
  references : ∀ r ∈ d.references.join, r.toValue.Fits limit

theorem gives_references (limit : Nat) (o : Outline) :
    Gives (fun x => ∀ r ∈ x, r.toValue.Fits limit) (readOptional Reference.read limit o) :=
  gives_readOptional (P := fun r : Reference => r.toValue.Fits limit) (fun o => Reference.isCodec.gives o limit) o

theorem gives_step {limit : Nat} {d : Draft} (hd : d.Fits limit) (name : String) (value : Outline) :
    Gives (Draft.Fits limit) (Draft.step limit d name value) := by
  unfold Draft.step
  split
  · exact (Gives.trivial _).bind fun _ _ => .ok ⟨hd.default, hd.references⟩
  · exact (Gives.trivial _).bind fun _ _ => .ok ⟨hd.default, hd.references⟩
  · exact (Gives.trivial _).bind fun _ _ => .ok ⟨hd.default, hd.references⟩
  · exact (Gives.trivial _).bind fun _ _ => .ok ⟨hd.default, hd.references⟩
  · have hvalue := gives_readField (Value.gives_read value limit) "default" d.default
    exact hvalue.bind fun _ hv => .ok ⟨hv, hd.references⟩
  · have hreferences := gives_readField (gives_references limit value) "references" d.references
    exact hreferences.bind fun _ hr => .ok ⟨hd.default, forall_join hr⟩
  · exact (Gives.trivial _).bind fun _ _ => .ok hd

theorem gives_ofItems (limit : Nat) (items : Items) :
    Gives (fun c => c.toValue.Fits (limit + 1)) (ofItems limit items) := by
  refine (Gives.trivial _).bind fun ⟨type, items⟩ _ => ?_
  cases type with
  | none => exact .error _
  | some type =>
    refine (Gives.trivial _).bind fun ⟨nullable, items⟩ _ => ?_
    refine (Gives.trivial _).bind fun ⟨unique, items⟩ _ => ?_
    refine (Gives.trivial _).bind fun ⟨primary, items⟩ _ => ?_
    refine (gives_nextItem (fun o => Value.gives_read o limit) items).bind fun ⟨default, items⟩ hdefault => ?_
    refine (gives_nextItem (gives_references limit) items).bind fun ⟨references, items⟩ hreferences => ?_
    exact (Gives.trivial _).bind fun _ _ => .ok (fits_toValue_iff.mpr ⟨hdefault, forall_join hreferences⟩)

theorem gives_ofMembers (limit : Nat) (members : Members) : Gives (fun c => c.toValue.Fits (limit + 1))
    (do (← foldMembers (Draft.step limit) ⟨none, none, none, none, none, none⟩ members).finish) := by
  have hstart : Draft.Fits limit ⟨none, none, none, none, none, none⟩ := ⟨by simp, by simp⟩
  refine (gives_foldMembers (P := Draft.Fits limit) (fun _ name value hd => gives_step hd name value) members _
    hstart).bind fun d hd => ?_
  exact (Gives.trivial _).bind fun type _ => .ok (fits_toValue_iff.mpr ⟨hd.default, hd.references⟩)

theorem isCodec : IsCodec toValue read where
  reads
    | c, limit + 1, hfit, hlegible => by
      show (do (← foldMembers (Draft.step limit) ⟨none, none, none, none, none, none⟩
        (Value.membersOutline c.members)).finish) = _
      rw [c.folds hfit hlegible]
      show Except.ok (ε := Problem) (Column.mk c.type _ _ _ _ _) = _
      rw [getD_flagged, getD_flagged, getD_flagged, Option.map_id', join_map_some]
  gives := gives_readRecord (P := fun (c : Column) limit => c.toValue.Fits limit) gives_ofItems gives_ofMembers

end Column

/-! ## Tables -/

namespace Table

section Columns

variable {columns : List (String × Column)} {limit : Nat}

/-- Columns have a document if their names are distinct. -/
theorem fits_columnsToValue_iff : (columnsToValue columns).Fits (limit + 1) ↔
    (columns.map (·.1)).Nodup ∧ ∀ c ∈ columns, c.2.toValue.Fits limit := by
  rw [columnsToValue, Value.fits_object_iff, List.map_map, List.forall_mem_map]
  rfl

theorem isLegible_columnsToValue_iff :
    (columnsToValue columns).IsLegible ↔ ∀ c ∈ columns, c.2.toValue.IsLegible := by
  show Value.MembersLegible (columns.map _) ↔ _
  rw [Value.membersLegible_iff, List.forall_mem_map]

theorem folds_columns (done : List (String × Column)) (hnodup : ((done ++ columns).map (·.1)).Nodup)
    (hread : ∀ c ∈ columns, Column.read limit c.2.toValue.outline = .ok c.2) :
    Folds (columnStep limit) done (columns.map fun (name, c) => (name, c.toValue)) (done ++ columns) := by
  induction columns generalizing done with
  | nil =>
    rw [List.append_nil]
    exact .nil
  | cons column rest ih =>
    obtain ⟨name, c⟩ := column
    have hstep : columnStep limit done name c.toValue.outline = .ok (done ++ [(name, c)]) := by
      unfold columnStep
      rw [hread (name, c) List.mem_cons_self]
      exact if_neg (not_any_of_nodup_keys hnodup)
    have hrest := ih (done ++ [(name, c)]) (by simpa using hnodup)
      fun d hd => hread d (List.mem_cons_of_mem _ hd)
    rw [List.append_assoc] at hrest
    exact .cons hstep hrest

/-- Columns that were read have names of their own, and they fit. -/
theorem gives_columnStep {done : List (String × Column)}
    (h : (done.map (·.1)).Nodup ∧ ∀ c ∈ done, c.2.toValue.Fits limit) (name : String) (value : Outline) :
    Gives (fun done => (done.map (·.1)).Nodup ∧ ∀ c ∈ done, c.2.toValue.Fits limit)
      (columnStep limit done name value) := by
  refine (Column.isCodec.gives value limit).bind fun column hcolumn => ?_
  split
  · exact .error _
  next hnew =>
    refine .ok ⟨nodup_keys_concat h.1 hnew, ?_⟩
    rw [List.forall_mem_append, List.forall_mem_singleton]
    exact ⟨h.2, hcolumn⟩

theorem isCodec_columns : IsCodec columnsToValue readColumns where
  reads
    | columns, limit + 1, hfit, hlegible => by
      rw [fits_columnsToValue_iff] at hfit
      rw [isLegible_columnsToValue_iff] at hlegible
      exact folds_columns [] hfit.1 fun c hc =>
        Column.isCodec.reads c.2 limit (hfit.2 c hc) (hlegible c hc)
  gives
    | .object members, limit + 1 => fun columns hcolumns => by
      refine fits_columnsToValue_iff.mpr ?_
      exact gives_foldMembers (fun _ name value h => gives_columnStep h name value) members []
        ⟨List.nodup_nil, nofun⟩ columns hcolumns
    | .object _, 0 => .error _
    | .array _, _ => .error _
    | .null, _ => .error _
    | .bool _, _ => .error _
    | .number _, _ => .error _
    | .string _, _ => .error _
    | .broken, _ => .error _

end Columns

/-- The members of a written table. -/
def members (t : Table) : List (String × Value) :=
  [("name", .string t.name), ("columns", columnsToValue t.columns)] ++ flagMember "timestamps" t.timestamps

theorem forall_members {t : Table} {P : Value → Prop} (hstring : ∀ s, P (.string s)) (hbool : P (.bool true)) :
    (∀ m ∈ t.members, P m.2) ↔ P (columnsToValue t.columns) := by
  have hflag : ∀ m ∈ flagMember "timestamps" t.timestamps, P m.2 := forall_flagMember _ _ hbool
  simp only [members, List.forall_mem_append, List.forall_mem_cons]
  exact ⟨fun h => h.1.2.1, fun h => ⟨⟨hstring _, h, nofun⟩, hflag⟩⟩

theorem fits_toValue_iff {t : Table} {limit : Nat} :
    t.toValue.Fits (limit + 1) ↔ (columnsToValue t.columns).Fits limit := by
  have hkeys : (t.members.map (·.1)).Sublist ["name", "columns", "timestamps"] := by
    rw [members, List.map_append]
    exact (List.Sublist.refl ["name", "columns"]).append (keys_flagMember _ _)
  have hmembers : t.toValue.Fits (limit + 1) ↔ ∀ m ∈ t.members, m.2.Fits limit :=
    Value.fits_object_iff.trans (and_iff_right (hkeys.nodup (by decide)))
  exact hmembers.trans (forall_members (P := fun v => v.Fits limit) (fun _ => trivial) trivial)

theorem isLegible_toValue_iff {t : Table} : t.toValue.IsLegible ↔ (columnsToValue t.columns).IsLegible :=
  Value.membersLegible_iff.trans (forall_members (P := Value.IsLegible) (fun _ => trivial) trivial)

theorem folds (t : Table) {limit : Nat} (hfit : t.toValue.Fits (limit + 1)) (hlegible : t.toValue.IsLegible) :
    Folds (Draft.step limit) ⟨none, none, none⟩ t.members
      ⟨some t.name, some t.columns, flagged t.timestamps⟩ := by
  have hname : Draft.step limit ⟨none, none, none⟩ "name" (.string (.written t.name)) =
      .ok ⟨some t.name, none, none⟩ := by
    simp only [Draft.step, readField, readString, readSpelled_written]
    rfl
  have hcolumns : Draft.step limit ⟨some t.name, none, none⟩ "columns" (columnsToValue t.columns).outline =
      .ok ⟨some t.name, some t.columns, none⟩ := by
    have hread := isCodec_columns.reads t.columns limit (fits_toValue_iff.mp hfit)
      (isLegible_toValue_iff.mp hlegible)
    simp only [Draft.step, readField, hread]
    rfl
  exact .append (.cons hname (.cons hcolumns .nil))
    (.flag (fun x => Draft.mk (some t.name) (some t.columns) x) rfl)

/-- The columns that were read fit below a table. -/
def Draft.Fits (limit : Nat) (d : Draft) : Prop := ∀ columns ∈ d.columns, (columnsToValue columns).Fits limit

theorem gives_step {limit : Nat} {d : Draft} (hd : d.Fits limit) (name : String) (value : Outline) :
    Gives (Draft.Fits limit) (Draft.step limit d name value) := by
  unfold Draft.step
  split
  · exact (Gives.trivial _).bind fun _ _ => .ok hd
  · have hcolumns := gives_readField (isCodec_columns.gives value limit) "columns" d.columns
    exact hcolumns.bind fun _ h => .ok h
  · exact (Gives.trivial _).bind fun _ _ => .ok hd
  · exact (Gives.trivial _).bind fun _ _ => .ok hd

theorem gives_ofItems (limit : Nat) (items : Items) :
    Gives (fun t => t.toValue.Fits (limit + 1)) (ofItems limit items) := by
  refine (Gives.trivial _).bind fun ⟨name, items⟩ _ => ?_
  cases name with
  | none => exact .error _
  | some name =>
    refine (gives_nextItem (fun o => isCodec_columns.gives o limit) items).bind fun ⟨columns, items⟩ hcolumns => ?_
    cases columns with
    | none => exact .error _
    | some columns =>
      refine (Gives.trivial _).bind fun ⟨timestamps, items⟩ _ => ?_
      exact (Gives.trivial _).bind fun _ _ => .ok (fits_toValue_iff.mpr (hcolumns columns rfl))

theorem gives_ofMembers (limit : Nat) (members : Members) : Gives (fun t => t.toValue.Fits (limit + 1))
    (do (← foldMembers (Draft.step limit) ⟨none, none, none⟩ members).finish) := by
  have hstart : Draft.Fits limit ⟨none, none, none⟩ := by simp [Draft.Fits]
  refine (gives_foldMembers (P := Draft.Fits limit) (fun _ name value hd => gives_step hd name value) members _
    hstart).bind fun d hd => ?_
  refine (Gives.trivial _).bind fun name _ => (gives_required "columns" hd).bind fun columns hcolumns => ?_
  exact .ok (fits_toValue_iff.mpr hcolumns)

theorem isCodec : IsCodec toValue read where
  reads
    | t, limit + 1, hfit, hlegible => by
      show (do (← foldMembers (Draft.step limit) ⟨none, none, none⟩ (Value.membersOutline t.members)).finish) = _
      rw [t.folds hfit hlegible]
      show Except.ok (ε := Problem) (Table.mk t.name t.columns _) = _
      rw [getD_flagged]
  gives := gives_readRecord (P := fun (t : Table) limit => t.toValue.Fits limit) gives_ofItems gives_ofMembers

end Table

/-! ## Schemas -/

namespace Schema

theorem isCodec_tables : IsCodec (fun tables : List Table => .array (tables.map Table.toValue))
    (readList Table.read) := .list Table.isCodec

theorem fits_toValue_iff {s : Schema} {limit : Nat} :
    s.toValue.Fits (limit + 1) ↔ (Value.array (s.tables.map Table.toValue)).Fits limit :=
  ⟨fun h => h.2.1, fun h => ⟨by simp, h, trivial⟩⟩

theorem gives_ofItems (limit : Nat) (items : Items) :
    Gives (fun s => s.toValue.Fits (limit + 1)) (ofItems limit items) := by
  refine (gives_nextItem (fun o => isCodec_tables.gives o limit) items).bind fun ⟨tables, items⟩ htables => ?_
  cases tables with
  | none => exact .error _
  | some tables => exact (Gives.trivial _).bind fun _ _ => .ok (fits_toValue_iff.mpr (htables tables rfl))

theorem gives_ofMembers (limit : Nat) (members : Members) : Gives (fun s : Schema => s.toValue.Fits (limit + 1))
    (do return ⟨← required "tables" (← foldMembers (step limit) none members)⟩) := by
  refine (gives_foldMembers (P := fun tables => ∀ ts ∈ tables, (Value.array (ts.map Table.toValue)).Fits limit)
    (fun tables name value htables => ?_) members none nofun).bind fun tables htables => ?_
  · unfold step
    split
    · exact gives_readField (isCodec_tables.gives value limit) "tables" tables
    · exact (Gives.trivial _).bind fun _ _ => .ok htables
  · exact (gives_required "tables" htables).bind fun tables h => .ok (fits_toValue_iff.mpr h)

theorem isCodec : IsCodec toValue read where
  reads
    | s, limit + 1, hfit, hlegible => by
      have hread := isCodec_tables.reads s.tables limit (fits_toValue_iff.mp hfit) hlegible.1
      have hstep : step limit none "tables" (Value.array (s.tables.map Table.toValue)).outline =
          .ok (some s.tables) := by
        simp only [step, readField, hread]
        rfl
      have hmembers : Folds (step limit) none [("tables", .array (s.tables.map Table.toValue))] (some s.tables) :=
        .cons hstep .nil
      show (do return Schema.mk (← required "tables" (← foldMembers (step limit) none (Value.membersOutline _)))) = _
      rw [hmembers]
      rfl
  gives := gives_readRecord (P := fun (s : Schema) limit => s.toValue.Fits limit) gives_ofItems gives_ofMembers

end Schema

/-! ## Documents are read back -/

/-- **Documents lose nothing.** What was read as a schema, a table or a column is read back from both of its written
forms if its doubles are, and every migration is. -/
theorem documents_reread :
    (∀ (text : String) (s : Schema), readDocument Schema.read text = .ok s →
      (∀ d ∈ s.toValue.doubles, (Number.double d).IsLegible) → Rereads Schema.toValue Schema.read s) ∧
    (∀ (text : String) (t : Table), readDocument Table.read text = .ok t →
      (∀ d ∈ t.toValue.doubles, (Number.double d).IsLegible) → Rereads Table.toValue Table.read t) ∧
    (∀ (text : String) (c : Column), readDocument Column.read text = .ok c →
      (∀ d ∈ c.toValue.doubles, (Number.double d).IsLegible) → Rereads Column.toValue Column.read c) ∧
    ∀ m : Migration, Rereads Migration.toValue Migration.read m :=
  ⟨fun _ _ h => Schema.isCodec.rereads h, fun _ _ h => Table.isCodec.rereads h,
    fun _ _ h => Column.isCodec.rereads h, fun m => .of_read m.isLegible_toValue (m.read_outline 125)⟩

/-- One and a half. -/
def threeHalves : Double := ⟨false, 0x18000000000000, -52, by decide⟩

theorem isLegible_threeHalves : (Number.double threeHalves).IsLegible :=
  Number.isLegible_of_read (m := ⟨false, [1], some [5], none⟩) (by decide +kernel) (by decide +kernel)

/-- A schema as an array: a column with a key that is repeated and a double that is spelled in an unusual way, and a
column with a default of null. -/
def measures : String :=
  "[[[\"m\", \x7b\"b\": [\"json\", false, false, false, \x7b\"z\": 2, \"a\": [], \"\\u007a\": 15e-1\x7d]," ++
    "\"a\": \x7b\"default\": null, \"type\": \"uuid\"\x7d\x7d]]]"

/-- The usual document of this schema. -/
def measuresCompact : String :=
  "\x7b\"tables\":[\x7b\"name\":\"m\",\"columns\":\x7b\"b\":\x7b\"type\":\"json\"," ++
    "\"default\":\x7b\"z\":1.5,\"a\":[]\x7d\x7d,\"a\":\x7b\"type\":\"uuid\",\"default\":null\x7d\x7d\x7d]\x7d"

theorem measures_reread : ∃ s : Schema, readDocument Schema.read measures = .ok s ∧ s.toValue.doubles = [threeHalves] ∧
    s.toValue.compact = measuresCompact ∧ readDocument Schema.read measuresCompact = .ok s ∧
    readDocument Schema.read s.toValue.pretty = .ok s := by
  have hread : (readDocument Schema.read measures).toOption.map (fun s => (s.toValue.doubles, s.toValue.compact)) =
      some ([threeHalves], measuresCompact) := by decide +kernel
  obtain ⟨s, hs, htexts⟩ := Option.map_eq_some_iff.mp hread
  obtain ⟨hdoubles, hcompact⟩ := Prod.mk.inj htexts
  have hlegible : ∀ d ∈ s.toValue.doubles, (Number.double d).IsLegible := by
    rw [hdoubles, List.forall_mem_singleton]
    exact isLegible_threeHalves
  have hrereads := documents_reread.1 measures s (Attempt.eq_ok_of_toOption hs) hlegible
  exact ⟨s, Attempt.eq_ok_of_toOption hs, hdoubles, hcompact, hcompact ▸ hrereads.compact, hrereads.pretty⟩

end SchemaJournal
