import SchemaJournal.Proofs.Ddl.Relations
import SchemaJournal.Proofs.Text.Lexing

/-!
# The structure of compiled tables

Defaults are text of any kind in the middle of statements. As long as all names are plain, and strings stand as defaults
in columns only where they become literals, this text cannot change the structure: whatever the defaults contain, a
table is set up by as many statements as it should be, and the first one creates the declared columns
(`setUp_structured`).
-/

namespace SchemaJournal

open Text

namespace Json

/-! ## Numbers -/

theorem isBare_integer (n : Int) : IsBare (toString n) := by
  intro c hc
  rcases mem_toString hc with rfl | hdigit
  · rfl
  · have hne : ∀ d : Char, d.isDigit = false → c ≠ d := fun d hd => ne_of_apply_ne Char.isDigit (by simp [hdigit, hd])
    simp [isMark, hne]

theorem isBare_exponent (e : Int) : IsBare (Double.exponentText e) := by
  have hplus : IsBare "+" := by decide
  unfold Double.exponentText
  split
  · exact isBare_integer e
  · exact hplus.append (isBare_integer e)

theorem isBare_place {digits : String} (h : IsBare digits) (point : Int) : IsBare (Double.place digits point) := by
  have hzeros : ∀ n : Nat, IsBare (String.ofList (List.replicate n '0')) := by
    intro n c hc
    rw [String.toList_ofList] at hc
    rw [(List.mem_replicate.mp hc).2]
    rfl
  have htake : ∀ n : Nat, IsBare (String.ofList (digits.toList.take n)) := fun n c hc =>
    h c (List.mem_of_mem_take (String.toList_ofList ▸ hc))
  have hdrop : ∀ n : Nat, IsBare (String.ofList (digits.toList.drop n)) := fun n c hc =>
    h c (List.mem_of_mem_drop (String.toList_ofList ▸ hc))
  have hpoint : IsBare "." := by decide
  have hleading : IsBare "0." := by decide
  have htrailing : IsBare ".0" := by decide
  have hexponent : IsBare "e" := by decide
  unfold Double.place
  dsimp only
  split
  · split
    · exact (h.append (hzeros _)).append htrailing
    · exact ((htake _).append hpoint).append (hdrop _)
  · split
    · exact (hleading.append (hzeros _)).append h
    · refine (IsBare.append ?_ hexponent).append (isBare_exponent _)
      split
      · exact htake 1
      · exact ((htake 1).append hpoint).append (hdrop 1)

theorem isBare_double (d : Double) : IsBare d.text := by
  have hsign : IsBare (if d.negative then "-" else "") := by split <;> decide
  have hzero : IsBare "0.0" := by decide
  unfold Double.text
  dsimp only
  split
  · exact hsign.append hzero
  · exact hsign.append (isBare_place (isBare_integer (.ofNat _)) _)

/-- A number is written without any mark. -/
theorem isBare_number (n : Number) : IsBare n.text := by
  cases n with
  | integer value inRange => exact isBare_integer value
  | double value => exact isBare_double value

end Json

namespace Ddl

/-- The columns of a table, the implicit ones included. -/
def columnNames (t : Table) : List String :=
  t.columns.map (·.1) ++ if t.timestamps then ["created_at", "updated_at"] else []

/-- The columns that reference a table, in order. -/
def referencing (t : Table) : List (String × Reference) :=
  t.columns.filterMap fun (name, c) => c.references.map (name, ·)

/-- A first statement and further ones have the structure of a table, whatever its defaults are. -/
structure Structured (t : Table) (create : String) (further : List String) : Prop where
  isStatement : ∀ s ∈ create :: further, IsStatement s
  /-- The first statement has a list of which the items are the columns. -/
  columns : columnNames t ≠ [] → ∃ ps items, pieces? create.toList = some ps ∧ list? ps = some items ∧
    items.map firstWord = columnNames t
  /-- There is one index for every unique column, then one foreign key for every column with a reference. -/
  further_eq : further = (indexedColumns t).map (fun c => (Statement.createUniqueIndex t.name c).text) ++
    (referencing t).map fun (c, r) => (Statement.addForeignKey t.name c r).text

/-! ## Parts of statements -/

theorem isBare_of_isPlain {name : String} (h : IsPlain name) : IsBare name := by
  intro c hc
  have hne : ∀ d : Char, isOdd d = true → c ≠ d := fun d => h.ne_of_mem hc
  simp [isMark, hne, isOdd]

theorem isWhitespace_of_isPlain {name : String} (h : IsPlain name) : ∀ c ∈ name.toList, c.isWhitespace = false := by
  intro c hc
  have hne : ∀ d : Char, isOdd d = true → c ≠ d := fun d => h.ne_of_mem hc
  simp [Char.isWhitespace, hne, isOdd]

theorem isInert_type (type : ColumnType) : IsInert type.sql := by
  cases type with
  | string =>
    have htext : ColumnType.string.sql = "VARCHAR" ++ ("(" ++ "255" ++ ")") := by decide
    rw [htext]
    exact IsBare.isInert_append (by decide) (IsInert.parens (IsBare.isInert (by decide)))
  | _ => exact IsBare.isInert (by decide)

/-- A default is inert, unless it is a string that stands for an expression. -/
theorem isInert_default {type : ColumnType} {value : Json.Value}
    (h : ∀ s, value = .string s → type = .string ∨ type = .json) : IsInert (defaultText type value) := by
  have hjson : ∀ v : Json.Value, IsInert (sqlLiteral v.compact ++ "::jsonb") := fun v =>
    (isInert_sqlLiteral _).append_bare (by decide)
  unfold defaultText
  split
  · exact IsBare.isInert (by decide)
  · exact hjson _
  · exact isInert_sqlLiteral _
  · exact isInert_sqlLiteral _
  · exact IsBare.isInert (by decide)
  · exact IsBare.isInert (by decide)
  next s hjson' hstring => exact ((h s rfl).elim hstring hjson').elim
  · exact (Json.isBare_number _).isInert
  · exact isInert_sqlLiteral _

theorem isInert_definition {c : Column}
    (h : ∀ s, c.default = some (.string s) → c.type = .string ∨ c.type = .json) : IsInert (definitionText c) := by
  unfold definitionText
  split
  · unfold keyText
    split
    · exact IsBare.isInert (by decide)
    · have htext : "UUID PRIMARY KEY DEFAULT gen_random_uuid()" =
          "UUID PRIMARY KEY DEFAULT gen_random_uuid" ++ ("(" ++ "" ++ ")") := by decide
      rw [htext]
      exact IsBare.isInert_append (by decide) (IsInert.parens (IsBare.isInert (by decide)))
    · exact (isInert_type _).append_bare (by decide)
  · refine ((isInert_type _).append_bare (by split <;> decide)).append ?_ ?_
    · split
      · exact IsBare.isInert (by decide)
      next value hvalue =>
        have hdefault : IsBare " DEFAULT " := by decide
        exact hdefault.isInert_append (isInert_default fun s hs => h s (hs ▸ hvalue))
    · split
      · decide
      · simp

/-! ## Lists of columns -/

/-- The list of columns in a statement that creates a table. -/
def listText (clauses : List ColumnClause) : String :=
  "\n    " ++ ",\n    ".intercalate (clauses.map ColumnClause.text) ++ "\n"

theorem listText_cons_cons (c d : ColumnClause) (rest : List ColumnClause) :
    listText (c :: d :: rest) = "\n    " ++ c.text ++ "," ++ listText (d :: rest) := by
  have hseparator : ",\n    " = "," ++ "\n    " := by decide
  unfold listText
  rw [List.map_cons, List.map_cons, String.intercalate_cons_cons, ← List.map_cons]
  generalize ",\n    ".intercalate _ = others
  rw [hseparator]
  ac_rfl

/-- A column clause is an item, which starts with the name of the column. -/
theorem inert_clause {c : ColumnClause} (hname : IsPlain c.name) (h : IsInert c.definition) (tail : String)
    (htail : IsBare tail) : ∃ ps, Inert false ("\n    " ++ c.text ++ tail).toList ps ∧ firstWord ps = c.name := by
  have hindent : IsBare "\n    " := by decide
  obtain ⟨qs, hqs⟩ := h.append_bare htail
  refine ⟨"\n    ".toList.map .code ++ (c.name.toList.map .code ++ .code ' ' :: qs), ?_, ?_⟩
  · have htext : ("\n    " ++ c.text ++ tail).toList =
        "\n    ".toList ++ (c.name.toList ++ ' ' :: (c.definition ++ tail).toList) := by
      simp [ColumnClause.text]
    rw [htext]
    exact .bare_append hindent (.bare_append (isBare_of_isPlain hname) (.code rfl hqs))
  · exact firstWord_append (by decide) hname.1 (isWhitespace_of_isPlain hname) rfl qs

/-- The items of the list are the columns. -/
theorem items?_listText {clauses : List ColumnClause} (hne : clauses ≠ [])
    (h : ∀ c ∈ clauses, IsPlain c.name ∧ IsInert c.definition) :
    ∃ ps, Inert true (listText clauses).toList ps ∧
      ∀ rest, ∃ items, items? 0 (ps ++ .code ')' :: rest) = some items ∧ items.map firstWord = clauses.map (·.name) := by
  induction clauses with
  | nil => exact absurd rfl hne
  | cons c others ih =>
    obtain ⟨⟨hname, hdefinition⟩, hothers⟩ := List.forall_mem_cons.mp h
    cases others with
    | nil =>
      obtain ⟨ps, hps, hword⟩ := inert_clause hname hdefinition "\n" (by decide)
      refine ⟨ps, ?_, fun rest => ⟨[ps], hps.items?_close rest, by simp [hword]⟩⟩
      rw [listText, List.map_singleton, String.intercalate_singleton]
      exact hps.inner
    | cons d others =>
      obtain ⟨ps, hps, hword⟩ := inert_clause hname hdefinition "" (by decide)
      obtain ⟨qs, hqs, hitems⟩ := ih (List.cons_ne_nil d others) hothers
      refine ⟨ps ++ .code ',' :: qs, ?_, fun rest => ?_⟩
      · have htext : (listText (c :: d :: others)).toList =
            ("\n    " ++ c.text ++ "").toList ++ ',' :: (listText (d :: others)).toList := by
          rw [listText_cons_cons]
          simp
        rw [htext]
        exact hps.inner.append (.comma hqs) (by simp)
      · obtain ⟨items, hread, hwords⟩ := hitems rest
        refine ⟨ps :: items, ?_, by simp [hword, hwords]⟩
        rw [List.append_assoc, List.cons_append, hps.items?_comma, hread, Option.map_some]

/-! ## Statements -/

variable {table column : String}

theorem text_createTable (table : String) (clauses : List ColumnClause) : (Statement.createTable table clauses).text =
    "CREATE TABLE " ++ table ++ " " ++ ("(" ++ listText clauses ++ ")") ++ ";" := by
  have hopen : " (\n    " = " " ++ "(" ++ "\n    " := by decide
  have hclose : "\n);" = "\n" ++ ")" ++ ";" := by decide
  dsimp only [Statement.text, listText]
  generalize ",\n    ".intercalate _ = columns
  rw [hopen, hclose]
  ac_rfl

/-- A statement that creates a table is read as one, and its list has the columns as items. -/
theorem createTable_structured {clauses : List ColumnClause} (ht : IsPlain table)
    (h : ∀ c ∈ clauses, IsPlain c.name ∧ IsInert c.definition) :
    IsStatement (Statement.createTable table clauses).text ∧ (clauses ≠ [] → ∃ ps items,
      pieces? (Statement.createTable table clauses).text.toList = some ps ∧ list? ps = some items ∧
      items.map firstWord = clauses.map (·.name)) := by
  have hhead : IsBare ("CREATE TABLE " ++ table ++ " ") :=
    (IsBare.append (by decide) (isBare_of_isPlain ht)).append (by decide)
  rw [text_createTable]
  generalize "CREATE TABLE " ++ table ++ " " = head at hhead ⊢
  rcases eq_or_ne clauses [] with rfl | hne
  · have hlist : IsInert ("(" ++ listText [] ++ ")") := IsInert.parens (IsBare.isInert (by decide))
    exact ⟨(hhead.isInert_append hlist).isStatement, fun hne => absurd rfl hne⟩
  · obtain ⟨ps, hps, hitems⟩ := items?_listText hne h
    have hlist : Inert false ("(" ++ listText clauses ++ ")").toList (.code '(' :: (ps ++ [.code ')'])) := by
      simpa using Inert.parens hps .nil
    have hall : Inert false (head ++ ("(" ++ listText clauses ++ ")")).toList
        (head.toList.map .code ++ .code '(' :: (ps ++ [.code ')'])) := by
      rw [String.toList_append]
      exact hlist.bare_append hhead
    obtain ⟨items, hread, hwords⟩ := hitems [.code ';']
    refine ⟨IsInert.isStatement ⟨_, hall⟩, fun _ => ⟨_, items, hall.pieces?_semicolon, ?_, hwords⟩⟩
    rw [List.append_assoc, list?_bare_append hhead, List.cons_append, List.append_assoc, list?]
    exact hread

theorem isStatement_createUniqueIndex (ht : IsBare table) (hc : IsBare column) :
    IsStatement (Statement.createUniqueIndex table column).text := by
  have hclose : ");" = ")" ++ ";" := by decide
  have htext : (Statement.createUniqueIndex table column).text =
      "CREATE UNIQUE INDEX " ++ table ++ "_" ++ column ++ "_unique ON " ++ table ++ ("(" ++ column ++ ")") ++ ";" := by
    dsimp only [Statement.text]
    rw [hclose]
    ac_rfl
  have hhead : IsBare ("CREATE UNIQUE INDEX " ++ table ++ "_" ++ column ++ "_unique ON " ++ table) :=
    ((((IsBare.append (by decide) ht).append (by decide)).append hc).append (by decide)).append ht
  rw [htext]
  exact (hhead.isInert_append hc.isInert.parens).isStatement

theorem isStatement_addForeignKey {target : Reference} (ht : IsBare table) (hc : IsBare column)
    (htarget : IsBare target.table) (hkey : IsBare target.column) :
    IsStatement (Statement.addForeignKey table column target).text := by
  have hopen : " FOREIGN KEY (" = " FOREIGN KEY " ++ "(" := by decide
  have hclose : ") REFERENCES " = ")" ++ " REFERENCES " := by decide
  have htext : (Statement.addForeignKey table column target).text =
      "ALTER TABLE " ++ table ++ " ADD CONSTRAINT fk_" ++ table ++ "_" ++ column ++ " FOREIGN KEY " ++
        ("(" ++ column ++ ")" ++ (" REFERENCES " ++ target.table ++
          ("(" ++ target.column ++ ")" ++ Statement.onDeleteText target.onDelete))) ++ ";" := by
    dsimp only [Statement.text]
    rw [hopen, hclose]
    ac_rfl
  have hrule : IsBare (Statement.onDeleteText target.onDelete) := by
    cases target.onDelete with
    | none => decide
    | some rule => cases rule <;> decide
  have hhead : IsBare ("ALTER TABLE " ++ table ++ " ADD CONSTRAINT fk_" ++ table ++ "_" ++ column ++ " FOREIGN KEY ") :=
    (((((IsBare.append (by decide) ht).append (by decide)).append ht).append (by decide)).append hc).append (by decide)
  have hreferences : IsBare (" REFERENCES " ++ target.table) := IsBare.append (by decide) htarget
  have hkeyed := hreferences.isInert_append (hkey.isInert.parens.append_bare hrule)
  rw [htext]
  exact (hhead.isInert_append (hc.isInert.parens.append hkeyed (by simp))).isStatement

/-! ## Tables -/

variable {t : Table}

theorem isInert_columnClauses (hcolumns : ∀ c ∈ t.columns, IsPlain c.1)
    (hdefaults : ∀ c ∈ t.columns, ∀ s, c.2.default = some (.string s) → c.2.type = .string ∨ c.2.type = .json) :
    ∀ c ∈ columnClauses t, IsPlain c.name ∧ IsInert c.definition := by
  intro c hc
  rcases List.mem_append.mp hc with hc | hc
  · obtain ⟨column, hmem, rfl⟩ := List.mem_map.mp hc
    exact ⟨hcolumns column hmem, isInert_definition (hdefaults column hmem)⟩
  · have htimes : ∀ c ∈ timeColumns, IsPlain c.name ∧ IsBare c.definition := by decide
    split at hc
    · exact (htimes c hc).imp_right IsBare.isInert
    · cases hc

theorem names_columnClauses (t : Table) : (columnClauses t).map (·.name) = columnNames t := by
  rw [columnClauses, columnNames, List.map_append, List.map_map]
  congr 1
  split <;> rfl

theorem texts_setUp (t : Table) : (setUp t).map Statement.text = (createTable t).text ::
    ((indexedColumns t).map (fun c => (Statement.createUniqueIndex t.name c).text) ++
      (referencing t).map fun (c, r) => (Statement.addForeignKey t.name c r).text) := by
  have hkeys : foreignKeys t = (referencing t).map fun (c, r) => .addForeignKey t.name c r := by
    rw [foreignKeys, referencing, List.map_filterMap]
    refine List.filterMap_congr fun c _ => ?_
    simp [Function.comp_def]
  rw [setUp, uniqueIndexes, hkeys, indexedColumns]
  simp [Function.comp_def]

/-- **The structure of a table.** If all names are plain, and strings are defaults only where they become literals, then
the statements that set a table up have the structure of the table: no default can change it. -/
theorem setUp_structured (t : Table) (hname : IsPlain t.name)
    (hcolumns : ∀ c ∈ t.columns, IsPlain c.1 ∧ ∀ r ∈ c.2.references, IsPlain r.table ∧ IsPlain r.column)
    (hdefaults : ∀ c ∈ t.columns, ∀ s, c.2.default = some (.string s) → c.2.type = .string ∨ c.2.type = .json) :
    ∃ create further, (setUp t).map Statement.text = create :: further ∧ Structured t create further := by
  have hbare := isBare_of_isPlain hname
  obtain ⟨hstatement, hitems⟩ :=
    createTable_structured hname (isInert_columnClauses (fun c hc => (hcolumns c hc).1) hdefaults)
  refine ⟨_, _, texts_setUp t, List.forall_mem_cons.mpr ⟨hstatement, List.forall_mem_append.mpr ⟨?_, ?_⟩⟩, ?_, rfl⟩
  · intro s hs
    obtain ⟨column, hindexed, rfl⟩ := List.mem_map.mp hs
    obtain ⟨c, hc, rfl⟩ := List.mem_map.mp hindexed
    exact isStatement_createUniqueIndex hbare (isBare_of_isPlain (hcolumns c (List.mem_filter.mp hc).1).1)
  · intro s hs
    obtain ⟨⟨column, target⟩, hreferencing, rfl⟩ := List.mem_map.mp hs
    obtain ⟨c, hc, hr⟩ := List.mem_filterMap.mp hreferencing
    obtain ⟨r, hr, hpair⟩ := Option.map_eq_some_iff.mp hr
    cases hpair
    obtain ⟨hcolumn, hreferences⟩ := hcolumns c hc
    obtain ⟨htable, hkey⟩ := hreferences target hr
    exact isStatement_addForeignKey hbare (isBare_of_isPlain hcolumn) (isBare_of_isPlain htable) (isBare_of_isPlain hkey)
  · intro hne
    rw [← names_columnClauses t] at hne ⊢
    exact hitems (List.map_eq_nil_iff.not.mp hne)

/-- A table with defaults that look like structure. -/
def guarded : Table where
  name := "notes"
  columns := [
    ("id", { Column.ofType .number with primary := true }),
    ("title", { Column.ofType .string with unique := true, default := some (.string "it's); DROP TABLE notes; --") }),
    ("body", { Column.ofType .json with
      default := some (.object [("a'b", .array [.string "x, y);\n''", .null, .bool true])]) }),
    ("author", { Column.ofType .uuid with nullable := true, references := some ⟨"users", "id", some .setNull⟩ }),
    ("pinned", { Column.ofType .boolean with default := some (.array [.string "',("]) })]
  timestamps := true

/-- Quotes, commas, parentheses and semicolons in defaults leave the columns as they are. -/
theorem guarded_structured : ∃ create index key ps items,
    (setUp guarded).map Statement.text = [create, index, key] ∧ (∀ s ∈ [create, index, key], IsStatement s) ∧
    pieces? create.toList = some ps ∧ list? ps = some items ∧
    items.map firstWord = ["id", "title", "body", "author", "pinned", "created_at", "updated_at"] := by
  obtain ⟨create, further, htexts, hstatements, hcolumns, rfl⟩ := setUp_structured guarded (by decide) (by decide)
    (by simp [guarded, Column.ofType])
  obtain ⟨ps, items, hps, hlist, hwords⟩ := hcolumns (by decide)
  exact ⟨create, _, _, ps, items, htexts, hstatements, hps, hlist, hwords⟩

end Ddl

end SchemaJournal
