import SchemaJournal.Database.Pool
import SchemaJournal.Text.Character
import SchemaJournal.Text.Search

/-!
# A database in memory

A store knows as much SQL as migrations need: it creates the tracking table, inserts, deletes and selects records, and
creates and drops tables by name. Other statements have no effect. Statements of a transaction are gathered and take
effect when it is committed, all of them or none; a statement that contains a failing pattern is refused at once.

The store has a clock of its own, which advances with every record that is inserted.
-/

namespace SchemaJournal.Database

/-- The contents of a database in memory. -/
structure Store where
  /-- Whether the tracking table was created. -/
  tracking : Bool
  records : List Record
  /-- The names of the tables, oldest first. -/
  tables : List String
  /-- The committed statements, without those that keep the records. -/
  executed : List String
  /-- Patterns of the statements that are refused. -/
  failing : List String
  commits : Nat
  rollbacks : Nat
  /-- How many seconds the clock has advanced. -/
  clock : Nat
deriving Inhabited

namespace Store

/-- A database without tables. -/
def empty : Store := ⟨false, [], [], [], [], 0, 0, 0⟩

/-- Makes every statement that contains a pattern fail. -/
def failOn (s : Store) (pattern : String) : Store := { s with failing := s.failing ++ [pattern] }

/-- Refuses a statement that contains a failing pattern. -/
def check (s : Store) (sql : String) : Except Error Unit :=
  if s.failing.any (Text.occursIn · sql) then .error (.database ("simulated failure: " ++ sql)) else .ok ()

/-- What the clock shows. -/
def now (s : Store) : Moment := Moment.ofSeconds (1700000000 + s.clock)

/-- Advances the clock. -/
def tick (s : Store) : Store := { s with clock := s.clock + 1 }

/-- Inserts a record as it is, without looking for another one with its id. -/
def seed (s : Store) (id name : String) (timestamp : Int64) : Store :=
  let s := s.tick
  { s with tracking := true, records := s.records ++ [⟨id, name, timestamp, s.now⟩] }

/-! ## Statements -/

/-- The name at the start of a text: all up to white space, a semicolon or a parenthesis. -/
def leadingName (s : String) : String :=
  String.ofList (s.toList.takeWhile fun c => !(Text.isBlank c || c == ';' || c == '('))

/-- What a statement does, as far as a store understands it. -/
inductive Effect where
  | createTracking
  | insertRecord
  | deleteRecord
  | createTable (name : String)
  | dropTable (name : String)
  | nothing
deriving DecidableEq, Repr

/-- The effect of a statement, told by how it starts. -/
def Effect.ofSql (sql : String) : Effect :=
  if Text.startsWith "CREATE TABLE IF NOT EXISTS" sql then .createTracking
  else if Text.startsWith "INSERT INTO" sql then .insertRecord
  else if Text.startsWith "DELETE FROM" sql then .deleteRecord
  else
    match Text.afterStart? "CREATE TABLE " sql with
    | some rest => .createTable (leadingName rest)
    | none =>
      match Text.afterStart? "DROP TABLE IF EXISTS " sql with
      | some rest => .dropTable (leadingName rest)
      | none => .nothing

/-- The text that a statement has as a parameter. -/
def textParameter (params : List Value) (i : Nat) : Except Error String :=
  match params[i]? with
  | some (.text s) => .ok s
  | other => .error (.database ("bad parameter " ++ toString i ++ ": " ++ Value.parameterShown other))

/-- The time that a statement has as its third parameter. -/
def timeParameter (params : List Value) : Except Error Int64 :=
  match params[(2 : Nat)]? with
  | some (.int8 n) => .ok n
  | other => .error (.database ("bad timestamp: " ++ Value.parameterShown other))

/-- Inserts a record with the parameters id, name and time, in this order; no other record may have its id. -/
def insertRecord (params : List Value) : Action Store Unit := do
  let timestamp ← Attempt.ofExcept (timeParameter params)
  let id ← Attempt.ofExcept (textParameter params 0)
  let name ← Attempt.ofExcept (textParameter params 1)
  modify tick
  let s ← get
  if s.records.any (·.id == id) then throw (.database ("duplicate key " ++ id))
  set ({ s with records := s.records ++ [⟨id, name, timestamp, s.now⟩] } : Store)

/-- Deletes the records with an id, which is the first parameter. -/
def deleteRecord (params : List Value) (s : Store) : Store :=
  match params with
  | .text id :: _ => { s with records := s.records.filter (·.id != id) }
  | _ => s

/-- Applies a statement. -/
def apply (sql : String) (params : List Value) : Action Store Unit := do
  match Effect.ofSql sql with
  | .createTracking => modify fun s => { s with tracking := true }
  | .insertRecord => insertRecord params
  | .deleteRecord => modify (deleteRecord params)
  | .createTable name =>
    let s ← get
    if s.tables.contains name then throw (.database ("relation \"" ++ name ++ "\" already exists"))
    set ({ s with tables := s.tables ++ [name] } : Store)
  | .dropTable name => modify fun s => { s with tables := s.tables.filter (· != name) }
  | .nothing => return ()

/-- Applies statements in order. -/
def applyAll : List Prepared → Action Store Unit
  | [] => return ()
  | (sql, params) :: rest => do
    apply sql params
    applyAll rest

/-- Whether a committed statement is listed as executed: those that keep the records are not. -/
def isListed (sql : String) : Bool := !Text.startsWith "INSERT INTO" sql && !Text.startsWith "DELETE FROM" sql

/-- Applies the statements of a transaction: all of them, or else the records and tables stay as they are. -/
def commit (statements : List Prepared) : Action Store Unit := fun s =>
  match applyAll statements s with
  | (.ok (), after) =>
    (.ok (), { after with
      executed := after.executed ++ (statements.map (·.1)).filter isListed, commits := after.commits + 1 })
  | (.error e, after) => (.error e, { after with records := s.records, tables := s.tables })

/-- Whether a query asks for the latest record only. -/
def asksLatest (sql : String) : Bool := Text.occursIn "ORDER BY timestamp DESC, id DESC LIMIT 1" sql

/-- The records that answer a query, in the order of their times. -/
def select (s : Store) (sql : String) : List Record :=
  let sorted := s.records.mergeSort Record.before
  if asksLatest sql then sorted.reverse.take 1 else sorted

/-- Answers a query. -/
def fetch (s : Store) (sql : String) : Except Error (List Row) := do
  s.check sql
  if s.tracking then return (s.select sql).map Record.toRow
  else throw (.database "relation \"_migrations\" does not exist")

end Store

/-! ## The pool of a store -/

/-- A database in memory with its transaction: the statements that wait for the commit. -/
structure Memory where
  store : Store
  pending : List Prepared
deriving Inhabited

namespace Memory

/-- An empty database. -/
def empty : Memory := ⟨Store.empty, []⟩

/-- Works on the contents. -/
def onStore (act : Action Store α) : Action Memory α :=
  Attempt.within (·.store) (fun store m => { m with store }) act

/-- Refuses a statement that contains a failing pattern. -/
def check (sql : String) : Action Memory Unit := Attempt.reading (·.store.check sql)

/-- The calls of a database in memory. -/
def pool : Pool Memory where
  execute sql params := do
    check sql
    onStore (Store.apply sql params)
    return 0
  fetch sql _ := Attempt.reading (·.store.fetch sql)
  begin := modify fun m => { m with pending := [] }
  executeInside sql params := do
    check sql
    modify fun m => { m with pending := m.pending ++ [(sql, params)] }
    return 0
  commit := do
    let m ← get
    onStore (Store.commit m.pending)
  rollback := modify fun m => { m with store := { m.store with rollbacks := m.store.rollbacks + 1 } }
  close := return ()

end Memory

end SchemaJournal.Database
