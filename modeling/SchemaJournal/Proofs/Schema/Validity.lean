import Mathlib.Data.List.Forall2
import Mathlib.Data.List.Induction
import Mathlib.Data.List.Nodup
import SchemaJournal.Schema.Editor

/-!
# What a valid schema is

A schema is valid if every table and every column has a name, the names of the tables differ, and every default is one
that the type of its column admits (`Schema.IsValid`). A schema that is not valid breaks some rules, and there is a
first one: all that stands before it is valid (`Schema.Breaks`).

Checking a list fails with the first of its members that fails (`forM_eq_error_iff`), so a column, a table and a schema
are accepted if and only if they are valid, and a refusal reports the first rule that is broken
(`Schema.check_reports_first`). What is valid does not depend on the order of the tables and the columns
(`Schema.Rearranged.isValid_iff`).
-/

namespace SchemaJournal

/-! ## Rules -/

/-- A name that is not blank. -/
def Text.IsVisible (name : String) : Prop := ∃ c ∈ name.toList, isBlank c = false

/-- The defaults that a column of a type may have. -/
def ColumnType.Admits : ColumnType → Json.Value → Prop
  | .boolean, value => value = .null ∨ ∃ b, value = .bool b
  | .number, value => value = .null ∨ (∃ n, value = .number n) ∨ ∃ s, value = .string s
  | .json, _ => True
  | .string, value | .date, value | .uuid, value =>
    (∀ items, value ≠ .array items) ∧ ∀ members, value ≠ .object members

/-- A column with a name, and with a default that its type admits if it has one. -/
structure Table.IsValidColumn (column : String × Column) : Prop where
  name : Text.IsVisible column.1
  default : ∀ value, column.2.default = some value → column.2.type.Admits value

/-- A table with a name and valid columns. -/
structure Table.IsValid (t : Table) : Prop where
  name : Text.IsVisible t.name
  columns : ∀ column ∈ t.columns, IsValidColumn column

/-- A schema of valid tables, each with a name of its own. -/
structure Schema.IsValid (s : Schema) : Prop where
  tables : ∀ t ∈ s.tables, t.IsValid
  names : (s.tables.map (·.name)).Nodup

/-- The first rule that a column of a table breaks. -/
inductive Table.ColumnBreaks (table : String) : String × Column → Violation → Prop
  | name {name : String} {c : Column} (hname : ¬Text.IsVisible name) :
    ColumnBreaks table (name, c) (.blankColumnName table)
  | default {name : String} {c : Column} {value : Json.Value} (hname : Text.IsVisible name)
    (hdefault : c.default = some value) (hvalue : ¬c.type.Admits value) :
    ColumnBreaks table (name, c) (.unsuitedDefault table name c.type value)

/-- The first rule that a table breaks by itself. -/
inductive Table.Breaks (t : Table) : Violation → Prop
  | name (hname : ¬Text.IsVisible t.name) : Breaks t .blankTableName
  | column {before after : List (String × Column)} {column : String × Column} {v : Violation}
    (hname : Text.IsVisible t.name) (hsplit : t.columns = before ++ column :: after)
    (hbefore : ∀ c ∈ before, IsValidColumn c) (hbreaks : ColumnBreaks t.name column v) : Breaks t v

/-- The first rule that a schema breaks. -/
inductive Schema.Breaks (s : Schema) : Violation → Prop
  | table {before after : List Table} {t : Table} {v : Violation} (hsplit : s.tables = before ++ t :: after)
    (hbefore : Schema.IsValid ⟨before⟩) (hbreaks : t.Breaks v) : Breaks s v
  | repetition {before after : List Table} {t : Table} (hsplit : s.tables = before ++ t :: after)
    (hbefore : Schema.IsValid ⟨before⟩) (ht : t.IsValid) (hname : t.name ∈ before.map (·.name)) :
    Breaks s (.duplicateTable t.name)

/-! ## Checking a list -/

section

variable {ε α : Type} {f : α → Except ε Unit} {x : α} {xs : List α} {e : ε}

theorem forM_of_ok (h : f x = .ok ()) (xs : List α) : (x :: xs).forM f = xs.forM f := by
  show (f x >>= fun _ => xs.forM f) = _
  rw [h]
  rfl

theorem forM_of_error (h : f x = .error e) (xs : List α) : (x :: xs).forM f = .error e := by
  show (f x >>= fun _ => xs.forM f) = _
  rw [h]
  rfl

/-- A list passes if all of its members do. -/
theorem forM_eq_ok_iff : xs.forM f = .ok () ↔ ∀ x ∈ xs, f x = .ok () := by
  induction xs with
  | nil => exact iff_of_true rfl nofun
  | cons x xs ih =>
    rw [List.forall_mem_cons]
    cases hx : f x with
    | error e => simp [forM_of_error hx]
    | ok => rw [forM_of_ok hx, ih, and_iff_right rfl]

/-- A list fails with the first of its members that fails. -/
theorem forM_eq_error_iff : xs.forM f = .error e ↔
    ∃ before x after, xs = before ++ x :: after ∧ (∀ y ∈ before, f y = .ok ()) ∧ f x = .error e := by
  induction xs with
  | nil => exact iff_of_false nofun (by simp)
  | cons x xs ih =>
    cases hx : f x with
    | error e' =>
      rw [forM_of_error hx]
      constructor
      · rintro h
        exact ⟨[], x, xs, rfl, nofun, hx.trans h⟩
      · rintro ⟨_ | ⟨y, before⟩, z, after, hsplit, hbefore, hz⟩
        · cases hsplit
          exact hx.symm.trans hz
        · cases hsplit
          cases hx.symm.trans (hbefore _ List.mem_cons_self)
    | ok =>
      rw [forM_of_ok hx, ih]
      constructor
      · rintro ⟨before, z, after, rfl, hbefore, hz⟩
        exact ⟨x :: before, z, after, rfl, List.forall_mem_cons.mpr ⟨hx, hbefore⟩, hz⟩
      · rintro ⟨_ | ⟨y, before⟩, z, after, hsplit, hbefore, hz⟩
        · cases hsplit
          cases hx.symm.trans hz
        · cases hsplit
          exact ⟨before, z, after, rfl, (List.forall_mem_cons.mp hbefore).2, hz⟩

end

/-! ## Columns -/

theorem Text.allBlank_iff {name : String} : allBlank name = true ↔ ¬IsVisible name := by
  simp [allBlank, IsVisible]

theorem ColumnType.suits_iff {type : ColumnType} {value : Json.Value} :
    type.suits value = true ↔ type.Admits value := by
  cases type <;> cases value <;> simp [suits, Admits]

namespace Table

variable {t : Table} {table : String} {column : String × Column} {v : Violation}

/-- A column is accepted if it is valid, and otherwise refused for the first rule that it breaks. -/
theorem validateColumn_cases (table : String) (column : String × Column) :
    validateColumn table column.1 column.2 = .ok () ∧ IsValidColumn column ∨
      ∃ v, validateColumn table column.1 column.2 = .error v ∧ ColumnBreaks table column v := by
  obtain ⟨name, c⟩ := column
  unfold validateColumn
  by_cases hname : Text.allBlank name = true
  · exact .inr ⟨_, if_pos hname, .name (Text.allBlank_iff.mp hname)⟩
  · have hvisible : Text.IsVisible name := not_not.mp (Text.allBlank_iff.not.mp hname)
    rw [if_neg hname]
    cases hdefault : c.default with
    | none => exact .inl ⟨rfl, hvisible, fun value hvalue => nomatch hdefault.symm.trans hvalue⟩
    | some value =>
      by_cases hsuits : c.type.suits value = true
      · refine .inl ⟨if_pos hsuits, hvisible, fun other hother => ?_⟩
        cases hdefault.symm.trans hother
        exact ColumnType.suits_iff.mp hsuits
      · exact .inr ⟨_, if_neg hsuits, .default hvisible hdefault (ColumnType.suits_iff.not.mp hsuits)⟩

/-- What breaks a rule is not valid. -/
theorem ColumnBreaks.not_isValidColumn (h : ColumnBreaks table column v) : ¬IsValidColumn column := by
  intro hvalid
  cases h with
  | name hname => exact hname hvalid.name
  | default _ hdefault hvalue => exact hvalue (hvalid.default _ hdefault)

/-- There is one first rule that a column breaks. -/
theorem ColumnBreaks.unique {v' : Violation} (h : ColumnBreaks table column v) (h' : ColumnBreaks table column v') :
    v = v' := by
  cases h with
  | name hname =>
    cases h' with
    | name => rfl
    | default hname' => exact absurd hname' hname
  | default hname hdefault =>
    cases h' with
    | name hname' => exact absurd hname hname'
    | default _ hdefault' =>
      cases hdefault.symm.trans hdefault'
      rfl

theorem validateColumn_eq_ok_iff : validateColumn table column.1 column.2 = .ok () ↔ IsValidColumn column := by
  rcases validateColumn_cases table column with ⟨hok, hvalid⟩ | ⟨v, herror, hbreaks⟩
  · exact iff_of_true hok hvalid
  · rw [herror]
    exact iff_of_false nofun hbreaks.not_isValidColumn

theorem validateColumn_eq_error_iff :
    validateColumn table column.1 column.2 = .error v ↔ ColumnBreaks table column v := by
  rcases validateColumn_cases table column with ⟨hok, hvalid⟩ | ⟨v', herror, hbreaks⟩
  · rw [hok]
    exact iff_of_false nofun fun h => h.not_isValidColumn hvalid
  · rw [herror]
    constructor
    · rintro ⟨⟩
      exact hbreaks
    · intro h
      rw [hbreaks.unique h]

/-! ## Tables -/

/-- A table with a name is checked column by column. -/
theorem validate_of_isVisible (h : Text.IsVisible t.name) :
    t.validate = t.columns.forM fun column => validateColumn t.name column.1 column.2 :=
  if_neg fun hblank => Text.allBlank_iff.mp hblank h

theorem validate_of_blank (h : ¬Text.IsVisible t.name) : t.validate = .error .blankTableName :=
  if_pos (Text.allBlank_iff.mpr h)

theorem validate_eq_ok_iff : t.validate = .ok () ↔ t.IsValid := by
  by_cases hname : Text.IsVisible t.name
  · rw [validate_of_isVisible hname, forM_eq_ok_iff]
    simp only [validateColumn_eq_ok_iff]
    exact ⟨fun h => ⟨hname, h⟩, fun h => h.columns⟩
  · rw [validate_of_blank hname]
    exact iff_of_false nofun fun h => hname h.name

theorem validate_eq_error_iff : t.validate = .error v ↔ t.Breaks v := by
  by_cases hname : Text.IsVisible t.name
  · rw [validate_of_isVisible hname, forM_eq_error_iff]
    simp only [validateColumn_eq_ok_iff, validateColumn_eq_error_iff]
    constructor
    · rintro ⟨before, column, after, hsplit, hbefore, hbreaks⟩
      exact .column hname hsplit hbefore hbreaks
    · rintro (hblank | ⟨-, hsplit, hbefore, hbreaks⟩)
      · exact absurd hname hblank
      · exact ⟨_, _, _, hsplit, hbefore, hbreaks⟩
  · rw [validate_of_blank hname]
    constructor
    · rintro ⟨⟩
      exact .name hname
    · rintro (_ | ⟨hvisible, -⟩)
      · rfl
      · exact absurd hvisible hname

/-- What is valid stays valid with its columns in another order. -/
theorem isValid_congr {t' : Table} (hname : t'.name = t.name) (hcolumns : t'.columns.Perm t.columns) :
    t'.IsValid ↔ t.IsValid := by
  constructor
  · exact fun h => ⟨hname ▸ h.name, fun column hc => h.columns column (hcolumns.mem_iff.mpr hc)⟩
  · exact fun h => ⟨hname ▸ h.name, fun column hc => h.columns column (hcolumns.mem_iff.mp hc)⟩

end Table

/-! ## Schemas -/

namespace Schema

variable {s s' : Schema} {t : Table} {before : List Table} {v : Violation}

/-- A table after others is checked by itself, then its name is looked for among theirs, and then the others follow. -/
theorem validateAfter_cons (names : List String) (t : Table) (rest : List Table) :
    validateAfter names (t :: rest) = t.validate.bind fun _ =>
      if t.name ∈ names then .error (.duplicateTable t.name) else validateAfter (t.name :: names) rest := by
  rw [validateAfter]
  cases t.validate with
  | error e => rfl
  | ok =>
    by_cases hname : t.name ∈ names
    · simp [hname, Except.bind, bind, throw, throwThe, MonadExceptOf.throw]
    · simp [hname, Except.bind, bind]

theorem isValid_snoc_iff :
    IsValid ⟨before ++ [t]⟩ ↔ IsValid ⟨before⟩ ∧ t.IsValid ∧ t.name ∉ before.map (·.name) := by
  constructor
  · rintro ⟨htables, hnames⟩
    rw [List.map_append, List.map_singleton, ← List.concat_eq_append, List.nodup_concat] at hnames
    obtain ⟨hbefore, ht⟩ := List.forall_mem_append.mp htables
    exact ⟨⟨hbefore, hnames.2⟩, ht t (List.mem_singleton_self t), hnames.1⟩
  · rintro ⟨⟨htables, hnames⟩, ht, hname⟩
    refine ⟨List.forall_mem_append.mpr ⟨htables, by simpa using ht⟩, ?_⟩
    rw [List.map_append, List.map_singleton, ← List.concat_eq_append, List.nodup_concat]
    exact ⟨hname, hnames⟩

/-- Valid tables are passed over, and what follows them is checked after their names. -/
theorem validateAfter_append (hbefore : IsValid ⟨before⟩) (rest : List Table) :
    validateAfter [] (before ++ rest) = validateAfter (before.map (·.name)).reverse rest := by
  induction before using List.reverseRecOn generalizing rest with
  | nil => rfl
  | append_singleton before t ih =>
    obtain ⟨hbefore, ht, hname⟩ := isValid_snoc_iff.mp hbefore
    rw [List.append_assoc, ih hbefore, List.singleton_append, validateAfter_cons, Table.validate_eq_ok_iff.mpr ht,
      List.map_append, List.map_singleton, List.reverse_concat]
    exact if_neg (by simpa using hname)

/-- Tables after valid ones are accepted if all are valid together, and otherwise refused for the first rule that is
broken. -/
theorem validateAfter_cases (hbefore : IsValid ⟨before⟩) (rest : List Table) :
    validateAfter (before.map (·.name)).reverse rest = .ok () ∧ IsValid ⟨before ++ rest⟩ ∨
      ∃ v, validateAfter (before.map (·.name)).reverse rest = .error v ∧ Breaks ⟨before ++ rest⟩ v := by
  induction rest generalizing before with
  | nil => exact .inl ⟨rfl, by rwa [List.append_nil]⟩
  | cons t rest ih =>
    rw [validateAfter_cons]
    cases hvalidate : t.validate with
    | error v => exact .inr ⟨v, rfl, .table rfl hbefore (Table.validate_eq_error_iff.mp hvalidate)⟩
    | ok =>
      have ht : t.IsValid := Table.validate_eq_ok_iff.mp hvalidate
      by_cases hname : t.name ∈ before.map (·.name)
      · exact .inr ⟨_, if_pos (List.mem_reverse.mpr hname), .repetition rfl hbefore ht hname⟩
      · have hnext := ih (isValid_snoc_iff.mpr ⟨hbefore, ht, hname⟩)
        rw [List.append_assoc, List.map_append, List.map_singleton, List.reverse_concat] at hnext
        simp only [Except.bind]
        rwa [if_neg (List.mem_reverse.not.mpr hname)]

theorem isValid_empty : empty.IsValid := ⟨nofun, List.nodup_nil⟩

theorem validate_cases (s : Schema) :
    s.validate = .ok () ∧ s.IsValid ∨ ∃ v, s.validate = .error v ∧ s.Breaks v :=
  validateAfter_cases isValid_empty s.tables

theorem validate_of_isValid (h : s.IsValid) : s.validate = .ok () := by
  have hall := validateAfter_append h []
  rwa [List.append_nil] at hall

theorem validate_of_breaks (h : s.Breaks v) : s.validate = .error v := by
  unfold validate
  cases h with
  | table hsplit hbefore hbreaks =>
    rw [hsplit, validateAfter_append hbefore, validateAfter_cons, Table.validate_eq_error_iff.mpr hbreaks]
    rfl
  | repetition hsplit hbefore ht hname =>
    rw [hsplit, validateAfter_append hbefore, validateAfter_cons, Table.validate_eq_ok_iff.mpr ht]
    exact if_pos (List.mem_reverse.mpr hname)

theorem validate_eq_ok_iff : s.validate = .ok () ↔ s.IsValid := by
  refine ⟨fun h => ?_, validate_of_isValid⟩
  rcases validate_cases s with ⟨-, hvalid⟩ | ⟨v, herror, -⟩
  · exact hvalid
  · cases h.symm.trans herror

theorem validate_eq_error_iff : s.validate = .error v ↔ s.Breaks v := by
  refine ⟨fun h => ?_, validate_of_breaks⟩
  rcases validate_cases s with ⟨hok, -⟩ | ⟨v', herror, hbreaks⟩
  · cases h.symm.trans hok
  · cases h.symm.trans herror
    exact hbreaks

/-! ## Other orders -/

/-- The same tables with the same columns, in other orders. -/
def Rearranged (s s' : Schema) : Prop := ∃ tables, s'.tables.Perm tables ∧
  List.Forall₂ (fun t t' => t'.name = t.name ∧ t'.columns.Perm t.columns) s.tables tables

theorem isValid_congr {tables tables' : List Table}
    (h : List.Forall₂ (fun t t' => t'.name = t.name ∧ t'.columns.Perm t.columns) tables tables') :
    IsValid ⟨tables'⟩ ↔ IsValid ⟨tables⟩ := by
  have hnames : tables'.map (·.name) = tables.map (·.name) := by
    induction h with
    | nil => rfl
    | cons ht _ ih => rw [List.map_cons, List.map_cons, ht.1, ih]
  have htables : (∀ t ∈ tables', t.IsValid) ↔ ∀ t ∈ tables, t.IsValid := by
    clear hnames
    induction h with
    | nil => exact Iff.rfl
    | cons ht _ ih => rw [List.forall_mem_cons, List.forall_mem_cons, Table.isValid_congr ht.1 ht.2, ih]
  constructor
  · exact fun h => ⟨htables.mp h.tables, hnames ▸ h.names⟩
  · exact fun h => ⟨htables.mpr h.tables, hnames ▸ h.names⟩

/-- What is valid stays valid in another order. -/
theorem Rearranged.isValid_iff (h : s.Rearranged s') : s'.IsValid ↔ s.IsValid := by
  obtain ⟨tables, hperm, hsame⟩ := h
  rw [← isValid_congr hsame]
  constructor
  · exact fun h => ⟨fun t ht => h.tables t (hperm.mem_iff.mpr ht), (hperm.map _).nodup_iff.mp h.names⟩
  · exact fun h => ⟨fun t ht => h.tables t (hperm.mem_iff.mp ht), (hperm.map _).nodup_iff.mpr h.names⟩

/-! ## Accepted and refused schemas -/

/-- A schema is refused for one reason, which the error words. -/
theorem check_eq_error_iff {e : Error} :
    s.check = .error e ↔ ∃ v, s.validate = .error v ∧ e = .validation v.message := by
  unfold check
  cases s.validate with
  | ok => exact iff_of_false nofun (by simp)
  | error v => simp [Except.mapError, eq_comm]

theorem check_eq_ok_iff : s.check = .ok () ↔ s.IsValid := by
  rw [← validate_eq_ok_iff, check]
  cases s.validate with
  | ok => exact iff_of_true rfl rfl
  | error v => exact iff_of_false nofun nofun

/-- **Valid schemas.** A schema is accepted if and only if it is valid, and it is refused for the first rule that it
breaks. Whether it is accepted does not depend on the order of its tables and columns. -/
theorem check_reports_first (s : Schema) :
    (s.check = .ok () ↔ s.IsValid) ∧
    (∀ v, s.validate = .error v ↔ s.Breaks v) ∧
    (∀ e, s.check = .error e ↔ ∃ v, s.Breaks v ∧ e = .validation v.message) ∧
    ∀ s', s.Rearranged s' → (s'.check = .ok () ↔ s.check = .ok ()) := by
  refine ⟨check_eq_ok_iff, fun v => validate_eq_error_iff, fun e => ?_, fun s' hsame => ?_⟩
  · simp only [check_eq_error_iff, validate_eq_error_iff]
  · rw [check_eq_ok_iff, check_eq_ok_iff, hsame.isValid_iff]

/-- Two tables with the same name, of which the second one has a default that is not a number, and a column without a
name. -/
def clashing : Schema := ⟨[.named "a",
  ((Table.named "a").withColumn "n" { Column.ofType .number with default := some (.bool true) }).withColumn " "
    (.ofType .uuid)]⟩

-- The first column comes before the second one, and both before the name that repeats.
example : clashing.validate = .error (.unsuitedDefault "a" "n" .number (.bool true)) := rfl

end Schema

end SchemaJournal
