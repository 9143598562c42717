import SchemaJournal.Ddl.Compile
import SchemaJournal.Proofs.Json.Fit
import SchemaJournal.Proofs.Text.Lexing

/-!
# What defaults mean

In columns of strings and of JSON a default is one literal, and a cast in columns of JSON (`defaultText_eq`). Two
escapings are nested there, JSON in a literal of SQL. Undoing them gives the default back: the literal means a text
(`readLiteral_sqlLiteral`), and the text means the value (`means_literalText`). The clause is read alike wherever it
stands (`default_means_value`).
-/

namespace SchemaJournal.Ddl

open Text

variable {c : Column} {type : ColumnType} {v : Json.Value}

/-- What the literal of a default means: a string in a column of strings means itself, and other values are JSON. -/
def literalText : ColumnType → Json.Value → String
  | .string, .string s => s
  | _, v => v.compact

/-- What stands behind the literal of a default. -/
def castText : ColumnType → String
  | .json => "::jsonb"
  | _ => ""

/-- A text means a value in a column of a type. -/
structure Means (type : ColumnType) (v : Json.Value) (content : String) : Prop where
  string : type = .string → ∀ s, v = .string s → content = s
  other : type = .string → (∀ s, v ≠ .string s) → content = v.compact
  /-- The value can be read from the text, if it is one that a reader accepts and its doubles are read as written. -/
  json : type = .json → v.Fits Json.nestingLimit → (∀ d ∈ v.doubles, (Json.Number.double d).IsLegible) →
    Json.readDocument Json.Value.read content = .ok v

/-! ## Literals -/

/-- A literal is read from behind its opening quote up to its closing quote, and it means what was written. -/
theorem readLiteral_sqlLiteral (content : String) {rest : String} (hrest : rest.toList.head? ≠ some '\'') :
    readLiteral ((sqlLiteral content ++ rest).toList.drop 1) = some (content.toList, rest.toList) := by
  have htext : (sqlLiteral content ++ rest).toList =
      '\'' :: (doubleQuotes content.toList ++ '\'' :: rest.toList) := by
    simp [sqlLiteral]
  rw [htext, List.drop_one, List.tail_cons]
  exact readLiteral_doubleQuotes hrest

theorem means_literalText (type : ColumnType) (v : Json.Value) : Means type v (literalText type v) where
  string := by
    rintro rfl s rfl
    rfl
  other := by
    rintro rfl hother
    cases v with
    | string s => exact absurd rfl (hother s)
    | _ => rfl
  json := by
    rintro rfl hfit hdoubles
    have hlegible := Json.Value.isLegible_of_doubles v hdoubles
    exact (Json.readDocument_compact Json.Value.read hlegible).trans (Json.Value.read_outline v _ hfit hlegible)

/-- In columns of strings and of JSON, a default is a literal and a cast. -/
theorem defaultText_eq (htype : type = .string ∨ type = .json) (hnull : v ≠ .null) :
    defaultText type v = sqlLiteral (literalText type v) ++ castText type := by
  rcases htype with rfl | rfl
  · rw [castText, String.append_empty]
    · cases v with
      | null => exact absurd rfl hnull
      | bool b => cases b <;> rfl
      | _ => rfl
    · nofun
  · cases v with
    | null => exact absurd rfl hnull
    | _ => rfl

/-! ## Clauses -/

/-- The pieces of a clause that states a default. -/
def clausePieces (content cast : String) : List Piece :=
  "DEFAULT ".toList.map .code ++ .literal content.toList :: cast.toList.map .code

theorem inert_clauseText (type : ColumnType) (content : String) :
    Inert false ("DEFAULT " ++ (sqlLiteral content ++ castText type)).toList
      (clausePieces content (castText type)) := by
  have hdefault : IsBare "DEFAULT " := by decide
  have hcast : IsBare (castText type) := by cases type <;> decide
  have hnext : (castText type).toList.head? ≠ some '\'' := by cases type <;> decide
  have hbare : Inert false (castText type).toList ((castText type).toList.map .code) := by
    simpa using Inert.bare_append hcast .nil
  have htext : ("DEFAULT " ++ (sqlLiteral content ++ castText type)).toList =
      "DEFAULT ".toList ++ '\'' :: (doubleQuotes content.toList ++ '\'' :: (castText type).toList) := by
    simp [sqlLiteral]
  rw [htext]
  exact .bare_append hdefault (.literal content.toList hnext hbare)

/-- **Defaults.** In a column of strings or of JSON that is not a primary key, the clause of a default is one literal
with the cast of JSON behind it, whatever follows that does not open with a quote. The literal ends with its closing
quote, and what it means is the default. -/
theorem default_means_value (name : String) (hkey : c.primary = false) (hdefault : c.default = some v)
    (hnull : v ≠ .null) (htype : c.type = .string ∨ c.type = .json) :
    ∃ content, Means c.type v content ∧
      let literal := sqlLiteral content
      let clause := "DEFAULT " ++ (literal ++ castText c.type)
      (ColumnClause.mk name (definitionText c)).text =
        name ++ " " ++ c.type.sql ++ (if c.nullable then "" else " NOT NULL") ++ " " ++ clause ∧
      ∀ rest : String, rest.toList.head? ≠ some '\'' →
        readLiteral ((literal ++ rest).toList.drop 1) = some (content.toList, rest.toList) ∧
        pieces? (clause ++ rest).toList = (pieces? rest.toList).map (clausePieces content (castText c.type) ++ ·) := by
  refine ⟨literalText c.type v, means_literalText c.type v, ?_, fun rest hrest => ⟨?_, ?_⟩⟩
  · have hspace : " DEFAULT " = " " ++ "DEFAULT " := by decide
    have hdefinition : definitionText c =
        c.type.sql ++ (if c.nullable then "" else " NOT NULL") ++ (" DEFAULT " ++ defaultText c.type v) := by
      simp [definitionText, hkey, hdefault]
    rw [ColumnClause.text, hdefinition, defaultText_eq htype hnull, hspace]
    ac_rfl
  · exact readLiteral_sqlLiteral _ hrest
  · rw [String.toList_append]
    exact (inert_clauseText c.type _).pieces? hrest

/-- A value with quotes in a key and in strings. -/
def quoting : Json.Value := .object [("it's", .array [.string "'", .string "'::jsonb''"])]

/-- The value is read from the literal that is its default in a column of JSON. -/
theorem quoting_default_means_value :
    let c : Column := { Column.ofType .json with default := some quoting }
    c.primary = false ∧ c.default = some quoting ∧ quoting ≠ .null ∧ (c.type = .string ∨ c.type = .json) ∧
    ∃ content, Json.readDocument Json.Value.read content = .ok quoting ∧
      (ColumnClause.mk "label" (definitionText c)).text =
        "label JSONB NOT NULL DEFAULT " ++ sqlLiteral content ++ "::jsonb" ∧
      readLiteral ((sqlLiteral content ++ "::jsonb,").toList.drop 1) = some (content.toList, "::jsonb,".toList) := by
  intro c
  have hnull : quoting ≠ .null := by simp [quoting]
  have hfit : quoting.Fits Json.nestingLimit := by
    show Json.Value.Fits quoting (126 + 1)
    simp [quoting, Json.Value.Fits, Json.Value.ItemsFit, Json.Value.MembersFit]
  have hdoubles : quoting.doubles = [] := by decide
  obtain ⟨content, hmeans, htext, hread⟩ :=
    default_means_value (c := c) (v := quoting) "label" rfl rfl hnull (.inr rfl)
  refine ⟨rfl, rfl, hnull, .inr rfl, content, hmeans.json rfl hfit (by simp [hdoubles]), htext.trans ?_,
    (hread "::jsonb," (by decide)).1⟩
  have hstart : "label JSONB NOT NULL DEFAULT " = "label" ++ " " ++ "JSONB" ++ " NOT NULL" ++ " " ++ "DEFAULT " := by
    decide
  rw [hstart]
  simp only [String.append_assoc]
  rfl

end SchemaJournal.Ddl
