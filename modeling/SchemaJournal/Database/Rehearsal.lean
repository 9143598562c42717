import SchemaJournal.Database.Pool

/-!
# Rehearsals

A rehearsal stands between a caller and a database. It records the calls that are made, and it can be told in advance
to let a call fail or to answer a query with given rows: each fault and each answer is used once, the oldest that fits
first, and the database does not see that call.
-/

namespace SchemaJournal.Database

/-- A call to a database. -/
inductive Call where
  | execute (sql : String) (params : List Value)
  | fetch (sql : String) (params : List Value)
  | begin
  | executeInside (sql : String) (params : List Value)
  | commit
  | rollback
  | close
deriving DecidableEq

/-- The kinds of calls that can be made to fail. -/
inductive FaultPoint where
  | connect
  | execute
  | fetch
  | begin
  | executeInside
  | commit
  | rollback
deriving DecidableEq, Repr

/-- A failure that waits for a call. -/
structure Fault where
  point : FaultPoint
  error : Error

/-- A database under rehearsal. -/
structure Rehearsal (σ : Type) where
  database : σ
  /-- The calls since the record was last taken. -/
  calls : List Call
  faults : List Fault
  /-- The rows that answer the next queries. -/
  answers : List (List Row)

namespace Rehearsal

/-- A rehearsal in which nothing is planned. -/
def of (database : σ) : Rehearsal σ := ⟨database, [], [], []⟩

/-- Takes the oldest fault at a point out of some faults. -/
def takeFault (point : FaultPoint) : List Fault → Option (Error × List Fault)
  | [] => none
  | fault :: rest =>
    if fault.point = point then some (fault.error, rest)
    else (takeFault point rest).map fun (error, rest) => (error, fault :: rest)

/-- Fails if a fault waits at a point. -/
def meet (point : FaultPoint) : Action (Rehearsal σ) Unit := do
  let r ← get
  match takeFault point r.faults with
  | none => return ()
  | some (error, faults) =>
    set { r with faults }
    throw error

/-- Records a call. -/
def note (call : Call) : Action (Rehearsal σ) Unit := modify fun r => { r with calls := r.calls ++ [call] }

/-- Works on the database. -/
def onDatabase (act : Action σ α) : Action (Rehearsal σ) α :=
  Attempt.within (·.database) (fun database r => { r with database }) act

/-- Records a call, and makes it unless a fault waits for it. -/
def perform (call : Call) (point : FaultPoint) (act : Action σ α) : Action (Rehearsal σ) α := do
  note call
  meet point
  onDatabase act

/-- The calls of a database under rehearsal. -/
def pool (inner : Pool σ) : Pool (Rehearsal σ) where
  execute sql params := perform (.execute sql params) .execute (inner.execute sql params)
  fetch sql params := do
    note (.fetch sql params)
    meet .fetch
    let r ← get
    match r.answers with
    | rows :: answers =>
      set { r with answers }
      return rows
    | [] => onDatabase (inner.fetch sql params)
  begin := perform .begin .begin inner.begin
  executeInside sql params := perform (.executeInside sql params) .executeInside (inner.executeInside sql params)
  commit := perform .commit .commit inner.commit
  rollback := perform .rollback .rollback inner.rollback
  close := do
    note .close
    onDatabase inner.close

/-- Takes the record of the calls. -/
def takeCalls (r : Rehearsal σ) : List Call × Rehearsal σ := (r.calls, { r with calls := [] })

end Rehearsal

end SchemaJournal.Database
