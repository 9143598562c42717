import SchemaJournal.Proofs.Migration.References
import SchemaJournal.Proofs.Store.Progress

/-!
# What the statements of tables do to a store

A store tells the effect of a statement by its text. If the names of tables are plain, the text of a statement tells it
rightly (`ofSql_text`). Hence setting tables up adds their names in order, and taking them away gives back what was
there before (`changes_upStatements`, `changes_downStatements`).
-/

namespace SchemaJournal

open Database Database.Store Ddl Migration

/-! ## Single statements -/

namespace Ddl.Statement

/-- What a store makes of a statement. -/
def effect : Statement → Effect
  | .createTable table _ => .createTable table
  | .createUniqueIndex _ _ => .nothing
  | .addForeignKey _ _ _ => .nothing
  | .dropTable table => .dropTable table
  | .dropTableCascade table => .dropTable table

end Ddl.Statement

variable {name sql : String} {rest : List Char}

/-- Whether no name goes on with a character. -/
def endsName (c : Char) : Bool := Text.isBlank c || c == ';' || c == '('

theorem not_endsName_of_isOdd {c : Char} (h : Text.isOdd c = false) : endsName c = false := by
  have hrange : (65 ≤ c.toNat ∧ c.toNat ≤ 90) ∨ (97 ≤ c.toNat ∧ c.toNat ≤ 122) ∨ (48 ≤ c.toNat ∧ c.toNat ≤ 57) ∨
      c.toNat = 95 := by
    delta Text.isOdd Char.isAlphanum Char.isAlpha Char.isUpper Char.isLower Char.isDigit at h
    simp only [Bool.not_eq_false', Bool.or_eq_true, Bool.and_eq_true, decide_eq_true_eq, beq_iff_eq, ge_iff_le,
      UInt32.le_iff_toNat_le] at h
    rcases h with ((h | h) | h) | rfl
    · exact .inl h
    · exact .inr (.inl h)
    · exact .inr (.inr (.inl h))
    · exact .inr (.inr (.inr rfl))
  have hne : ∀ d : Char, c.toNat ≠ d.toNat → (c == d) = false := fun d hd =>
    beq_eq_false_iff_ne.mpr fun e => hd (e ▸ rfl)
  have hsemicolon : (c == ';') = false := hne ';' (by show c.toNat ≠ 59; omega)
  have hparenthesis : (c == '(') = false := hne '(' (by show c.toNat ≠ 40; omega)
  simp only [endsName, Text.isBlank, hsemicolon, hparenthesis]
  simp
  omega

/-- A plain name ends where a character follows that ends names. -/
theorem leadingName_of_isPlain (h : Text.IsPlain name) {c : Char} (hc : endsName c = true) (rest : List Char)
    (hsql : sql.toList = name.toList ++ c :: rest) : leadingName sql = name := by
  have htake : (name.toList ++ c :: rest).takeWhile (fun c => !endsName c) = name.toList := by
    rw [List.takeWhile_append_of_pos fun d hd => by simp [not_endsName_of_isOdd (h.2 d hd)]]
    simp [hc]
  show String.ofList (sql.toList.takeWhile fun c => !endsName c) = name
  rw [hsql, htake, String.ofList_toList]

theorem leadingName_append (h : Text.IsPlain name) {rest : String} {c : Char} (hc : endsName c = true)
    (hrest : rest.toList.head? = some c) : leadingName (name ++ rest) = name := by
  obtain ⟨more, hmore⟩ := List.head?_eq_some_iff.mp hrest
  exact leadingName_of_isPlain h hc more (by rw [String.toList_append, hmore])

/-- A plain name before a parenthesis is not what makes a table the tracking table. -/
theorem after?_guard (h : Text.IsPlain name) (rest : List Char) :
    Text.after? "IF NOT EXISTS".toList (name.toList ++ ' ' :: '(' :: rest) = none := by
  have hspace : ' ' ∉ name.toList := fun hmem => absurd (h.2 ' ' hmem) (by decide)
  refine Option.eq_none_iff_forall_ne_some.mpr fun more hmore => ?_
  rw [Text.after?_eq_some_iff] at hmore
  rcases hn : name.toList with _ | ⟨a, _ | ⟨b, _ | ⟨c, name'⟩⟩⟩
  · simp [hn] at hmore
  · simp [hn] at hmore
  · simp [hn] at hmore
  · simp only [hn, List.mem_cons, not_or] at hspace
    simp [hn, Ne.symm hspace.2.2.1] at hmore

theorem afterStart?_append (start rest : String) : Text.afterStart? start (start ++ rest) = some rest := by
  rw [Text.afterStart?, String.toList_append, Text.after?_eq_some_iff.mpr rfl, Option.map_some, String.ofList_toList]

theorem ofSql_create (h : Text.IsPlain name) (rest : String) :
    Effect.ofSql ("CREATE TABLE " ++ (name ++ (" (\n    " ++ rest))) = .createTable name := by
  have hafter := afterStart?_append "CREATE TABLE " (name ++ (" (\n    " ++ rest))
  have hname : leadingName (name ++ (" (\n    " ++ rest)) = name :=
    leadingName_append h (c := ' ') (by decide) (by simp)
  have hguard := after?_guard h ("\n    ".toList ++ rest.toList)
  have htracking : Text.startsWith "CREATE TABLE IF NOT EXISTS" ("CREATE TABLE " ++ (name ++ (" (\n    " ++ rest))) =
      false := by
    simpa [Text.startsWith, Text.after?] using hguard
  unfold Effect.ofSql
  rw [hafter, htracking]
  simp [Text.startsWith, Text.after?, hname]

theorem ofSql_drop (rest : String) :
    Effect.ofSql ("DROP TABLE IF EXISTS " ++ rest) = .dropTable (leadingName rest) := by
  simp [Effect.ofSql, Text.startsWith, Text.afterStart?, Text.after?]

theorem ofSql_index (rest : String) : Effect.ofSql ("CREATE UNIQUE INDEX " ++ rest) = .nothing := by
  simp [Effect.ofSql, Text.startsWith, Text.afterStart?, Text.after?]

theorem ofSql_alter (rest : String) : Effect.ofSql ("ALTER TABLE " ++ rest) = .nothing := by
  simp [Effect.ofSql, Text.startsWith, Text.afterStart?, Text.after?]

/-- The text of a statement about a table with a plain name tells its effect. -/
theorem ofSql_text {s : Statement} (h : Text.IsPlain s.table) : Effect.ofSql s.text = s.effect := by
  cases s with
  | createTable table columns =>
    show Effect.ofSql ("CREATE TABLE " ++ table ++ " (\n    " ++
      ",\n    ".intercalate (columns.map ColumnClause.text) ++ "\n);") = _
    simp only [String.append_assoc]
    exact ofSql_create h _
  | createUniqueIndex table column =>
    show Effect.ofSql ("CREATE UNIQUE INDEX " ++ table ++ "_" ++ column ++ "_unique ON " ++ table ++ "(" ++ column ++
      ");") = _
    simp only [String.append_assoc]
    exact ofSql_index _
  | addForeignKey table column target =>
    show Effect.ofSql ("ALTER TABLE " ++ table ++ " ADD CONSTRAINT fk_" ++ table ++ "_" ++ column ++ " FOREIGN KEY (" ++
      column ++ ") REFERENCES " ++ target.table ++ "(" ++ target.column ++ ")" ++
      Statement.onDeleteText target.onDelete ++ ";") = _
    simp only [String.append_assoc]
    exact ofSql_alter _
  | dropTable table =>
    show Effect.ofSql ("DROP TABLE IF EXISTS " ++ table ++ ";") = _
    rw [String.append_assoc, ofSql_drop]
    exact congrArg Effect.dropTable (leadingName_append h (c := ';') (by decide) (by simp))
  | dropTableCascade table =>
    show Effect.ofSql ("DROP TABLE IF EXISTS " ++ table ++ " CASCADE;") = _
    rw [String.append_assoc, ofSql_drop]
    exact congrArg Effect.dropTable (leadingName_append h (c := ' ') (by decide) (by simp))

/-! ## Several statements -/

variable {t : Table} {tables : List String} {ordered : List Table} {statements : List Statement}

/-- Statements without effect leave the tables. -/
theorem changes_of_nothing (h : ∀ s ∈ statements, Text.IsPlain s.table ∧ s.effect = .nothing) :
    changes (statements.map Statement.text) tables = .ok tables := by
  induction statements with
  | nil => rfl
  | cons s rest ih =>
    obtain ⟨hplain, heffect⟩ := h s List.mem_cons_self
    have hchange : change s.text tables = .ok tables := by
      rw [change, ofSql_text hplain, heffect]
    rw [List.map_cons, changes, hchange]
    exact ih fun s hs => h s (List.mem_cons_of_mem _ hs)

/-- Setting a table up adds its name. -/
theorem changes_setUp (h : Text.IsPlain t.name) (hnew : t.name ∉ tables) :
    changes ((setUp t).map Statement.text) tables = .ok (tables ++ [t.name]) := by
  have hcreate : change (createTable t).text tables = .ok (tables ++ [t.name]) := by
    rw [change, ofSql_text (s := createTable t) h]
    exact if_neg (by simpa using hnew)
  have hrest : ∀ s ∈ uniqueIndexes t ++ foreignKeys t, Text.IsPlain s.table ∧ s.effect = .nothing := by
    intro s hs
    have hs' : s ∈ setUp t := List.mem_cons_of_mem _ hs
    refine ⟨table_of_mem_setUp hs' ▸ h, ?_⟩
    rcases List.mem_append.mp hs with hs | hs
    · obtain ⟨_, _, rfl⟩ := List.mem_map.mp hs
      rfl
    · obtain ⟨_, _, hr⟩ := List.mem_filterMap.mp hs
      obtain ⟨_, _, rfl⟩ := Option.map_eq_some_iff.mp hr
      rfl
  show changes ((createTable t).text :: (uniqueIndexes t ++ foreignKeys t).map Statement.text) tables = _
  rw [changes, hcreate]
  exact changes_of_nothing hrest

/-- Setting tables up adds their names in order. -/
theorem changes_upStatements (hplain : ∀ t ∈ ordered, Text.IsPlain t.name) (hd : (ordered.map (·.name)).Nodup)
    (hfree : ∀ t ∈ ordered, t.name ∉ tables) :
    changes ((upStatements ordered).map Statement.text) tables = .ok (tables ++ ordered.map (·.name)) := by
  induction ordered generalizing tables with
  | nil => exact congrArg Except.ok (List.append_nil tables).symm
  | cons t rest ih =>
    obtain ⟨hmem, hd⟩ := List.nodup_cons.mp hd
    have hrest : ∀ u ∈ rest, u.name ∉ tables ++ [t.name] := by
      intro u hu hname
      rcases List.mem_append.mp hname with hname | hname
      · exact hfree u (List.mem_cons_of_mem _ hu) hname
      · exact hmem (List.mem_map.mpr ⟨u, hu, List.mem_singleton.mp hname⟩)
    have ht := changes_setUp (hplain t List.mem_cons_self) (hfree t List.mem_cons_self)
    have htext : (upStatements (t :: rest)).map Statement.text =
        (setUp t).map Statement.text ++ (upStatements rest).map Statement.text := by
      rw [upStatements, List.flatMap_cons, List.map_append]
      rfl
    rw [htext, changes_append, ht]
    refine (ih (fun u hu => hplain u (List.mem_cons_of_mem _ hu)) hd hrest).trans ?_
    rw [List.append_assoc]
    rfl

/-- Statements that drop tables leave the others. -/
theorem changes_dropping {names : List String} {sqlOf : String → String} (dropped : String → String)
    (h : ∀ name ∈ names, Effect.ofSql (sqlOf name) = .dropTable (dropped name)) :
    changes (names.map sqlOf) tables = .ok (tables.filter fun name => name ∉ names.map dropped) := by
  induction names generalizing tables with
  | nil => exact congrArg Except.ok (List.filter_eq_self.mpr fun _ _ => by simp).symm
  | cons name rest ih =>
    obtain ⟨hname, hrest⟩ := List.forall_mem_cons.mp h
    have hdrop : change (sqlOf name) tables = .ok (tables.filter (· != dropped name)) := by
      rw [change, hname]
    rw [List.map_cons, changes, hdrop]
    refine (ih hrest).trans ?_
    rw [List.filter_filter]
    refine congrArg Except.ok (List.filter_congr fun table _ => ?_)
    rw [List.map_cons]
    by_cases htable : table = dropped name <;> simp [htable]

/-- Dropping tables leaves the others. -/
theorem changes_drops (hplain : ∀ t ∈ ordered, Text.IsPlain t.name) :
    changes ((ordered.map fun t => Statement.dropTable t.name).map Statement.text) tables =
      .ok (tables.filter fun name => name ∉ ordered.map (·.name)) := by
  have hsqls : (ordered.map fun t => Statement.dropTable t.name).map Statement.text =
      (ordered.map (·.name)).map fun name => (Statement.dropTable name).text := by
    rw [List.map_map, List.map_map]
    rfl
  rw [hsqls, changes_dropping id, List.map_id]
  intro name hname
  obtain ⟨t, ht, rfl⟩ := List.mem_map.mp hname
  exact ofSql_text (s := .dropTable t.name) (hplain t ht)

/-- Taking tables away that were set up gives back what was there before. -/
theorem changes_downStatements (hplain : ∀ t ∈ ordered, Text.IsPlain t.name) (hfree : ∀ t ∈ ordered, t.name ∉ tables) :
    changes ((downStatements ordered).map Statement.text) (tables ++ ordered.map (·.name)) = .ok tables := by
  rw [downStatements_eq, changes_drops fun t ht => hplain t (List.mem_reverse.mp ht)]
  refine congrArg Except.ok ?_
  rw [List.filter_append, List.filter_eq_self.mpr, List.filter_eq_nil_iff.mpr, List.append_nil]
  · intro name hname
    simpa using List.mem_map.mp hname
  · intro name hname
    simp only [List.map_reverse, List.mem_reverse, decide_eq_true_eq]
    intro hmem
    obtain ⟨t, ht, rfl⟩ := List.mem_map.mp hmem
    exact hfree t ht hname

/-! ## Migrations of tables -/

/-- The statements of a migration of tables add the names of the tables in their order and take them away again. -/
theorem changes_build {name : String} {declared : List Table} {timestamp : Int64} {m : Migration}
    (hd : (declared.map (·.name)).Nodup) (hplain : ∀ t ∈ declared, Text.IsPlain t.name)
    (hfree : ∀ t ∈ declared, t.name ∉ tables) (h : Migration.build name declared timestamp = .ok m) :
    ∃ ordered, order declared = .ok ordered ∧ changes m.up tables = .ok (tables ++ ordered.map (·.name)) ∧
      changes m.down (tables ++ ordered.map (·.name)) = .ok tables := by
  obtain ⟨-, ordered, ho, rfl⟩ := build_eq_ok h
  have hmem : ∀ t ∈ ordered, t ∈ declared := fun t => (Order.order_perm hd ho).mem_iff.mp
  have hplain' : ∀ t ∈ ordered, Text.IsPlain t.name := fun t ht => hplain t (hmem t ht)
  have hfree' : ∀ t ∈ ordered, t.name ∉ tables := fun t ht => hfree t (hmem t ht)
  exact ⟨ordered, ho, changes_upStatements hplain' (Order.order_settled ho).nodup hfree',
    changes_downStatements hplain' hfree'⟩

end SchemaJournal
