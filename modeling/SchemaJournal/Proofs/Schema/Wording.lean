import Mathlib.Tactic.MkIffOfInductiveProp
import Mathlib.Tactic.Tauto
import SchemaJournal.Proofs.Json.Members
import SchemaJournal.Proofs.Schema.Document

/-!
# The wording of a column

What the object of a column is read as can be said field by field (`Column.Means`, `Column.read_object_iff`), and so can
the object of a reference within it. So two objects that differ in wording only are read as the same column: the order
of the fields, unknown fields, flags that are written though they are not set, and references and rules that are written
as null mean nothing (`Column.Alike`). A default of null does mean something, and no field can be given twice
(`column_wording`).
-/

namespace SchemaJournal

open Json

variable {limit : Nat} {members members' : List (Spelling × Outline)}

/-! ## References -/

namespace Reference

/-- The names of the fields. -/
def fields : List String := ["table", "column", "onDelete"]

/-- A rule of null means the same as none. -/
def Omissible (name : String) (value : Outline) : Prop := name = "onDelete" ∧ value = .null

/-- Objects that differ in wording only. -/
def Alike : List (Spelling × Outline) → List (Spelling × Outline) → Prop :=
  Json.Alike fields Omissible fun _ _ _ => False

/-- A draft becomes another one when some values are read. -/
@[mk_iff]
structure Draft.Reads (limit : Nat) (d : Draft) (values : String → List Outline) (d' : Draft) : Prop where
  table : Fills (readString limit) d.table (values "table") d'.table
  column : Fills (readString limit) d.column (values "column") d'.column
  onDelete : Fills (readOptional DeleteRule.read limit) d.onDelete (values "onDelete") d'.onDelete

/-- What the values of an object mean as a reference. -/
@[mk_iff]
structure Means (limit : Nat) (r : Reference) (values : String → List Outline) : Prop where
  table : Fills (readString limit) none (values "table") (some r.table)
  column : Fills (readString limit) none (values "column") (some r.column)
  onDelete : FillsOption DeleteRule.read limit (values "onDelete") r.onDelete

theorem isRecord (limit : Nat) : IsRecord fields (Draft.step limit) (Draft.Reads limit) where
  none {d d'} := by
    cases d
    cases d'
    simp [Draft.reads_iff, fills_nil_iff]
  append {d values others d'} := by
    simp only [Draft.reads_iff, fills_append_iff]
    constructor
    · rintro ⟨⟨table, ht, ht'⟩, ⟨column, hc, hc'⟩, rule, hr, hr'⟩
      exact ⟨⟨table, column, rule⟩, ⟨ht, hc, hr⟩, ht', hc', hr'⟩
    · rintro ⟨d₁, ⟨ht, hc, hr⟩, ht', hc', hr'⟩
      exact ⟨⟨_, ht, ht'⟩, ⟨_, hc, hc'⟩, _, hr, hr'⟩
  step {d name value d'} := by
    cases d'
    unfold Draft.step
    rw [Draft.reads_iff]
    split
    case h_4 _ htable hcolumn hrule =>
      rw [skip_bind_eq_ok_iff, given_of_ne htable, given_of_ne hcolumn, given_of_ne hrule]
      have hunknown : name ∉ fields := by simpa [fields] using ⟨htable, hcolumn, hrule⟩
      cases d
      simp [fills_nil_iff, hunknown]
    all_goals
      rw [readField_bind_eq_ok_iff]
      simp [given, fills_nil_iff, fields] <;> tauto

theorem Draft.finish_eq_ok_iff {d : Draft} {r : Reference} :
    d.finish = .ok r ↔ d.table = some r.table ∧ d.column = some r.column ∧ d.onDelete.join = r.onDelete := by
  unfold Draft.finish
  simp only [bind_eq_ok_iff, required_eq_ok_iff]
  constructor
  · rintro ⟨table, htable, column, hcolumn, ⟨⟩⟩
    exact ⟨htable, hcolumn, rfl⟩
  · rintro ⟨htable, hcolumn, hrule⟩
    refine ⟨r.table, htable, r.column, hcolumn, ?_⟩
    rw [hrule]
    rfl

/-- What an object is read as, field by field. -/
theorem read_object_iff {r : Reference} : read (limit + 1) (.object (.ofList members)) = .ok r ↔
    Means limit r (valuesOf members) ∧ ∀ m ∈ members, Passes fields m := by
  show (do (← foldMembers (Draft.step limit) ⟨none, none, none⟩ (.ofList members)).finish) = Except.ok r ↔ _
  simp only [bind_eq_ok_iff, (isRecord limit).foldMembers_iff, Draft.finish_eq_ok_iff]
  constructor
  · rintro ⟨⟨_, _, rule⟩, ⟨⟨htable, hcolumn, hrule⟩, hall⟩, rfl, rfl, hr⟩
    exact ⟨⟨htable, hcolumn, rule, hrule, hr⟩, hall⟩
  · rintro ⟨⟨htable, hcolumn, rule, hrule, hr⟩, hall⟩
    exact ⟨⟨some r.table, some r.column, rule⟩, ⟨⟨htable, hcolumn, hrule⟩, hall⟩, rfl, rfl, hr⟩

theorem isMeaning (r : Reference) : IsMeaning fields Omissible (fun _ _ _ => False) (Means limit r) where
  order {values others} hperm := by
    rintro ⟨htable, hcolumn, hrule⟩
    exact ⟨htable.perm (hperm _ (by simp [fields])), hcolumn.perm (hperm _ (by simp [fields])),
      hrule.perm (hperm _ (by simp [fields]))⟩
  omission {values name value} := by
    rintro ⟨rfl, rfl⟩ habsent
    refine ⟨by simp [fields], ?_⟩
    simp [means_iff, habsent, fillsOption_null_iff]
  value := nofun

/-- A value that is given to a field is the only one. -/
theorem Means.length_le {r : Reference} {values : String → List Outline} (h : Means limit r values) :
    ∀ field ∈ fields, (values field).length ≤ 1 := by
  obtain ⟨htable, hcolumn, _, hrule, -⟩ := h
  simp only [fields, List.forall_mem_cons]
  exact ⟨htable.length_le, hcolumn.length_le, hrule.length_le, nofun⟩

/-- Objects that differ in wording only are read alike. -/
theorem read_congr (h : Alike members members') (limit : Nat) (r : Reference) :
    read limit (.object (.ofList members)) = .ok r ↔ read limit (.object (.ofList members')) = .ok r := by
  cases limit with
  | zero => exact Iff.rfl
  | succ limit => rw [read_object_iff, read_object_iff, Json.Alike.means_iff (isMeaning r) h]

end Reference

/-! ## Columns -/

namespace Column

/-- The names of the fields. -/
def fields : List String := ["type", "nullable", "unique", "primary", "default", "references"]

/-- A flag that is not set and a reference of null mean the same as none. A default of null does not. -/
def Omissible (name : String) (value : Outline) : Prop :=
  name ∈ ["nullable", "unique", "primary"] ∧ value = .bool false ∨ name = "references" ∧ value = .null

/-- Values of a field that mean the same: references that differ in wording only. -/
def Inside (name : String) (value value' : Outline) : Prop :=
  name = "references" ∧ ∃ members members', value = .object (.ofList members) ∧ value' = .object (.ofList members') ∧
    Reference.Alike members members'

/-- Objects that differ in wording only. -/
def Alike : List (Spelling × Outline) → List (Spelling × Outline) → Prop := Json.Alike fields Omissible Inside

/-- A draft becomes another one when some values are read. -/
@[mk_iff]
structure Draft.Reads (limit : Nat) (d : Draft) (values : String → List Outline) (d' : Draft) : Prop where
  type : Fills (ColumnType.read limit) d.type (values "type") d'.type
  nullable : Fills (readBool limit) d.nullable (values "nullable") d'.nullable
  unique : Fills (readBool limit) d.unique (values "unique") d'.unique
  primary : Fills (readBool limit) d.primary (values "primary") d'.primary
  default : Fills (Value.read limit) d.default (values "default") d'.default
  references : Fills (readOptional Reference.read limit) d.references (values "references") d'.references

/-- What the values of an object mean as a column. -/
@[mk_iff]
structure Means (limit : Nat) (c : Column) (values : String → List Outline) : Prop where
  type : Fills (ColumnType.read limit) none (values "type") (some c.type)
  nullable : FillsFlag limit (values "nullable") c.nullable
  unique : FillsFlag limit (values "unique") c.unique
  primary : FillsFlag limit (values "primary") c.primary
  default : Fills (Value.read limit) none (values "default") c.default
  references : FillsOption Reference.read limit (values "references") c.references

theorem isRecord (limit : Nat) : IsRecord fields (Draft.step limit) (Draft.Reads limit) where
  none {d d'} := by
    cases d
    cases d'
    simp [Draft.reads_iff, fills_nil_iff]
  append {d values others d'} := by
    simp only [Draft.reads_iff, fills_append_iff]
    constructor
    · rintro ⟨⟨type, ht, ht'⟩, ⟨nullable, hn, hn'⟩, ⟨unique, hu, hu'⟩, ⟨primary, hp, hp'⟩, ⟨default, hd, hd'⟩,
        reference, hr, hr'⟩
      exact ⟨⟨type, nullable, unique, primary, default, reference⟩, ⟨ht, hn, hu, hp, hd, hr⟩, ht', hn', hu', hp', hd',
        hr'⟩
    · rintro ⟨d₁, ⟨ht, hn, hu, hp, hd, hr⟩, ht', hn', hu', hp', hd', hr'⟩
      exact ⟨⟨_, ht, ht'⟩, ⟨_, hn, hn'⟩, ⟨_, hu, hu'⟩, ⟨_, hp, hp'⟩, ⟨_, hd, hd'⟩, _, hr, hr'⟩
  step {d name value d'} := by
    cases d'
    unfold Draft.step
    rw [Draft.reads_iff]
    split
    case h_7 _ htype hnullable hunique hprimary hdefault hreferences =>
      rw [skip_bind_eq_ok_iff, given_of_ne htype, given_of_ne hnullable, given_of_ne hunique, given_of_ne hprimary,
        given_of_ne hdefault, given_of_ne hreferences]
      have hunknown : name ∉ fields := by
        simpa [fields] using ⟨htype, hnullable, hunique, hprimary, hdefault, hreferences⟩
      cases d
      simp [fills_nil_iff, hunknown]
    all_goals
      rw [readField_bind_eq_ok_iff]
      simp [given, fills_nil_iff, fields] <;> tauto

theorem Draft.finish_eq_ok_iff {d : Draft} {c : Column} : d.finish = .ok c ↔
    d.type = some c.type ∧ d.nullable.getD false = c.nullable ∧ d.unique.getD false = c.unique ∧
      d.primary.getD false = c.primary ∧ d.default = c.default ∧ d.references.join = c.references := by
  unfold Draft.finish
  simp only [bind_eq_ok_iff, required_eq_ok_iff]
  constructor
  · rintro ⟨type, htype, ⟨⟩⟩
    exact ⟨htype, rfl, rfl, rfl, rfl, rfl⟩
  · rintro ⟨htype, hnullable, hunique, hprimary, hdefault, hreferences⟩
    refine ⟨c.type, htype, ?_⟩
    rw [hnullable, hunique, hprimary, hdefault, hreferences]
    rfl

/-- What an object is read as, field by field. -/
theorem read_object_iff {c : Column} : read (limit + 1) (.object (.ofList members)) = .ok c ↔
    Means limit c (valuesOf members) ∧ ∀ m ∈ members, Passes fields m := by
  show (do (← foldMembers (Draft.step limit) ⟨none, none, none, none, none, none⟩ (.ofList members)).finish) =
    Except.ok c ↔ _
  simp only [bind_eq_ok_iff, (isRecord limit).foldMembers_iff, Draft.finish_eq_ok_iff]
  constructor
  · rintro ⟨⟨_, nullable, unique, primary, _, reference⟩, ⟨⟨ht, hn, hu, hp, hd, hr⟩, hall⟩, rfl, hn', hu', hp', rfl,
      hr'⟩
    exact ⟨⟨ht, ⟨nullable, hn, hn'⟩, ⟨unique, hu, hu'⟩, ⟨primary, hp, hp'⟩, hd, reference, hr, hr'⟩, hall⟩
  · rintro ⟨⟨ht, ⟨nullable, hn, hn'⟩, ⟨unique, hu, hu'⟩, ⟨primary, hp, hp'⟩, hd, reference, hr, hr'⟩, hall⟩
    exact ⟨⟨some c.type, nullable, unique, primary, c.default, reference⟩, ⟨⟨ht, hn, hu, hp, hd, hr⟩, hall⟩, rfl, hn',
      hu', hp', rfl, hr'⟩

theorem isMeaning (c : Column) : IsMeaning fields Omissible Inside (Means limit c) where
  order {values others} hperm := by
    rintro ⟨htype, hnullable, hunique, hprimary, hdefault, hreferences⟩
    exact ⟨htype.perm (hperm _ (by simp [fields])), hnullable.perm (hperm _ (by simp [fields])),
      hunique.perm (hperm _ (by simp [fields])), hprimary.perm (hperm _ (by simp [fields])),
      hdefault.perm (hperm _ (by simp [fields])), hreferences.perm (hperm _ (by simp [fields]))⟩
  omission {values name value} := by
    rintro (⟨hflag, rfl⟩ | ⟨rfl, rfl⟩) habsent
    · simp only [List.mem_cons, List.not_mem_nil, or_false] at hflag
      rcases hflag with rfl | rfl | rfl <;>
        exact ⟨by simp [fields], by simp [means_iff, habsent, fillsFlag_false_iff]⟩
    · exact ⟨by simp [fields], by simp [means_iff, habsent, fillsOption_null_iff]⟩
  value values name value value' before after := by
    rintro ⟨rfl, members, members', rfl, rfl, halike⟩
    have hread : ∀ reference, readOptional Reference.read limit (.object (.ofList members)) = .ok reference ↔
        readOptional Reference.read limit (.object (.ofList members')) = .ok reference := by
      intro reference
      simp only [readOptional_object_eq_ok_iff, Reference.read_congr halike]
    refine ⟨by simp [fields], ?_⟩
    simp [means_iff, FillsOption, fills_congr hread]

/-- Objects that differ in wording only are read alike. -/
theorem read_congr (h : Alike members members') (limit : Nat) (c : Column) :
    read limit (.object (.ofList members)) = .ok c ↔ read limit (.object (.ofList members')) = .ok c := by
  cases limit with
  | zero => exact Iff.rfl
  | succ limit => rw [read_object_iff, read_object_iff, Json.Alike.means_iff (isMeaning c) h]

/-- A value that is given to a field is the only one. -/
theorem Means.length_le {c : Column} {values : String → List Outline} (h : Means limit c values) :
    ∀ field ∈ fields, (values field).length ≤ 1 := by
  obtain ⟨htype, ⟨_, hnullable, -⟩, ⟨_, hunique, -⟩, ⟨_, hprimary, -⟩, hdefault, _, hreferences, -⟩ := h
  simp only [fields, List.forall_mem_cons]
  exact ⟨htype.length_le, hnullable.length_le, hunique.length_le, hprimary.length_le, hdefault.length_le,
    hreferences.length_le, nofun⟩

/-- A default of null is a default where none was given. -/
theorem Means.insert_null {c : Column} {values : String → List Outline} (h : Means limit c values)
    (habsent : values "default" = []) :
    c.default = none ∧ Means limit { c with default := some .null } (Function.update values "default" [.null]) := by
  obtain ⟨htype, hnullable, hunique, hprimary, hdefault, hreferences⟩ := h
  rw [habsent] at hdefault
  refine ⟨(fills_nil_iff.mp hdefault).symm, ?_⟩
  constructor <;> simp only [ne_eq, String.reduceEq, not_false_eq_true, Function.update_of_ne, Function.update_self]
  · exact htype
  · exact hnullable
  · exact hunique
  · exact hprimary
  · exact .set (by unfold Value.read; rfl)
  · exact hreferences

/-- A field is given twice: one of the column, or one of the reference within it. -/
def Repeats (members : List (Spelling × Outline)) : Prop :=
  (∃ field ∈ fields, 2 ≤ (valuesOf members field).length) ∨
  ∃ inner, .object (.ofList inner) ∈ valuesOf members "references" ∧
    ∃ field ∈ Reference.fields, 2 ≤ (valuesOf inner field).length

/-- What was read gives no field twice. -/
theorem not_repeats_of_read {c : Column} (h : read limit (.object (.ofList members)) = .ok c) : ¬Repeats members := by
  cases limit with
  | zero => cases h
  | succ limit =>
    obtain ⟨hmeans, -⟩ := read_object_iff.mp h
    rintro (⟨field, hfield, htwo⟩ | ⟨inner, hinner, field, hfield, htwo⟩)
    · exact absurd (hmeans.length_le field hfield) (Nat.not_le.mpr htwo)
    · obtain ⟨option, hfills, -⟩ := hmeans.references
      obtain ⟨_, ha⟩ := hfills.read_of_mem hinner
      obtain ⟨r, hr, -⟩ := readOptional_object_eq_ok_iff.mp ha
      cases limit with
      | zero => cases hr
      | succ limit => exact absurd ((Reference.read_object_iff.mp hr).1.length_le field hfield) (Nat.not_le.mpr htwo)

/-- **The wording of a column.** All objects that differ in wording only from one that is read as a column are read as
the same column. But a default of null makes a difference where none was given, and a field that is given twice is
refused. -/
theorem column_wording {text : String} {c : Column} (hobject : IsObject text members)
    (hread : readDocument read text = .ok c) :
    (∀ text' members', IsObject text' members' → Alike members members' → readDocument read text' = .ok c) ∧
    (∀ text' before after key, IsObject text' (before ++ (key, .null) :: after) → members = before ++ after →
      key.string? = some "default" → valuesOf members "default" = [] →
      c.default = none ∧ readDocument read text' = .ok { c with default := some .null }) ∧
    ∀ text' members', IsObject text' members' → Repeats members' →
      ∃ problem, readDocument read text' = .error problem := by
  rw [readDocument_of_isObject read hobject] at hread
  refine ⟨fun text' members' hobject' halike => ?_, ?_, fun text' members' hobject' hrepeats => ?_⟩
  · rw [readDocument_of_isObject read hobject']
    exact (read_congr halike nestingLimit c).mp hread
  · rintro text' before after key hobject' rfl hkey habsent
    obtain ⟨hmeans, hall⟩ := read_object_iff.mp hread
    obtain ⟨hnone, hnull⟩ := hmeans.insert_null habsent
    have hempty : valuesOf before "default" = [] ∧ valuesOf after "default" = [] := by
      rwa [valuesOf_append, List.append_eq_nil_iff] at habsent
    rw [readDocument_of_isObject read hobject']
    refine ⟨hnone, read_object_iff.mpr ⟨?_, ?_⟩⟩
    · rwa [valuesOf_insert hkey, hempty.1, hempty.2]
    · have hpasses : Passes fields (key, .null) := ⟨"default", hkey, .inl (by simp [fields])⟩
      simpa [or_imp, forall_and, hpasses] using hall
  · rw [readDocument_of_isObject read hobject']
    cases hresult : read nestingLimit (.object (.ofList members')) with
    | error problem => exact ⟨problem, rfl⟩
    | ok c' => exact absurd hrepeats (not_repeats_of_read hresult)

/-- A column with a reference. -/
def plain : String := "\x7b\"type\":\"uuid\",\"references\":\x7b\"table\":\"t\",\"column\":\"id\"\x7d\x7d"

/-- The same column in other words, with an unknown field whose value no reader could keep. -/
def reworded : String := "\x7b\"x\":[1e999,\"\\ud800\"],\"references\":\x7b\"table\":\"t\",\"column\":\"id\"," ++
  "\"onDelete\":null\x7d,\"type\":\"uuid\",\"unique\":false\x7d"

theorem reworded_alike : ∃ c, readDocument read plain = .ok c ∧ readDocument read reworded = .ok c := by
  let inner : List (Spelling × Outline) :=
    [(.written "table", .string (.written "t")), (.written "column", .string (.written "id"))]
  let type : Spelling × Outline := (.written "type", .string (.written "uuid"))
  let refers (inner : List (Spelling × Outline)) : Spelling × Outline :=
    (.written "references", .object (.ofList inner))
  let ruled := inner ++ (.written "onDelete", .null) :: []
  let unknown : Outline := .array (.item (.number ⟨false, [1], none, some (false, [9, 9, 9])⟩)
    (.item (.string [.unit 0xd800]) .closed))
  have hplain : Token.ofChars plain.toList = [.openObject, .string (.written "type"), .colon, .string (.written "uuid"),
      .comma, .string (.written "references"), .colon, .openObject, .string (.written "table"), .colon,
      .string (.written "t"), .comma, .string (.written "column"), .colon, .string (.written "id"), .closeObject,
      .closeObject] := by
    decide +kernel
  have hreworded : Token.ofChars reworded.toList = [.openObject, .string (.written "x"), .colon, .openArray,
      .number ⟨false, [1], none, some (false, [9, 9, 9])⟩, .comma, .string [.unit 0xd800], .closeArray, .comma,
      .string (.written "references"), .colon, .openObject, .string (.written "table"), .colon,
      .string (.written "t"), .comma, .string (.written "column"), .colon, .string (.written "id"), .comma,
      .string (.written "onDelete"), .colon, .null, .closeObject, .comma, .string (.written "type"), .colon,
      .string (.written "uuid"), .comma, .string (.written "unique"), .colon, .bool false, .closeObject] := by
    decide +kernel
  have hobject : IsObject plain [type, refers inner] := by
    rw [IsObject, hplain]
    rfl
  have hobject' : IsObject reworded
      [(.written "x", unknown), refers ruled, type, (.written "unique", .bool false)] := by
    rw [IsObject, hreworded]
    rfl
  have hread : readDocument read plain = .ok { Column.ofType .uuid with references := some ⟨"t", "id", none⟩ } := by
    rw [readDocument_of_isObject read hobject]
    rfl
  have hrule : Reference.Omissible "onDelete" .null := ⟨rfl, rfl⟩
  have hruled : Reference.Alike (inner ++ []) ruled := .rel _ _ (.omission rfl rfl hrule)
  have hswapped : Alike [type, refers inner] [refers inner, type] := .rel _ _ (.order (.swap _ _ []))
  have hinside : Alike ([] ++ refers inner :: [type]) ([] ++ refers ruled :: [type]) :=
    .rel _ _ (.value rfl ⟨rfl, inner, ruled, rfl, rfl, hruled⟩)
  have hunknown : Alike ([] ++ [refers ruled, type]) ([] ++ (.written "x", unknown) :: [refers ruled, type]) :=
    .rel _ _ (.unknown rfl (by decide) rfl)
  have hflag : Alike ([(.written "x", unknown), refers ruled, type] ++ [])
      ([(.written "x", unknown), refers ruled, type] ++ (.written "unique", .bool false) :: []) :=
    .rel _ _ (.omission rfl rfl (.inl ⟨by decide, rfl⟩))
  have halike := ((hswapped.trans _ _ _ hinside).trans _ _ _ hunknown).trans _ _ _ hflag
  exact ⟨_, hread, (column_wording hobject hread).1 reworded _ hobject' halike⟩

end Column

end SchemaJournal
