import SchemaJournal.Schema.Basic

/-!
# The example schema

A blog: users, their posts and comments, categories and tags.
-/

namespace SchemaJournal.Schema

/-- A key that the database draws. -/
def drawnKey : Column := { Column.ofType .uuid with primary := true }

/-- A column that must be given. -/
def given (type : ColumnType) : Column := Column.ofType type

/-- A column whose values do not repeat. -/
def distinct (type : ColumnType) : Column := { Column.ofType type with unique := true }

/-- A reference to the owner of a row, which takes the row with it when it is deleted. -/
def owner (table : String) : Column := { Column.ofType .uuid with references := some ⟨table, "id", some .cascade⟩ }

/-- A table with time stamps. -/
def stamped (name : String) (columns : List (String × Column)) : Table := ⟨name, columns, true⟩

/-- The example schema. -/
def blog : Schema := ⟨[
  stamped "users" [
    ("id", drawnKey),
    ("email", distinct .string),
    ("name", given .string),
    ("settings", { given .json with default := some (.object []) })],
  stamped "posts" [
    ("id", drawnKey),
    ("title", given .string),
    ("content", given .string),
    ("published", { given .boolean with default := some (.bool false) }),
    ("user_id", owner "users")],
  stamped "comments" [
    ("id", drawnKey),
    ("content", given .string),
    ("user_id", owner "users"),
    ("post_id", owner "posts")],
  stamped "categories" [
    ("id", drawnKey),
    ("name", distinct .string)],
  stamped "tags" [
    ("id", drawnKey),
    ("label", distinct .string)]]⟩

end SchemaJournal.Schema
