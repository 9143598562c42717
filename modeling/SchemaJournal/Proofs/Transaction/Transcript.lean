import SchemaJournal.Database.Rehearsal
import SchemaJournal.Migration.Runner
import SchemaJournal.Proofs.Ensures

/-!
# Transcripts

A transcript stands before a database and writes down every call, how it ended, and the database after it.

- `Runner.exchanges` are the calls that an operation of a runner makes, with their outcomes, and `Runner.steps` are the
  same with the states of the database;
- writing a transcript changes nothing: the operations of `Runner.recorded` end as those of the runner itself
  (`Mirrors`, `mirrors_up`, `mirrors_down`, `mirrors_clear`);
- `committed` are the statements of the transactions that took effect, one list for each.
-/

namespace SchemaJournal

open Database World

namespace Database

/-- A call, and how it ended. -/
structure Exchange where
  call : Call
  outcome : Except Error Unit

/-- A call that was made, how it ended, and the database after it. -/
structure Step (σ : Type) where
  exchange : Exchange
  database : σ

/-- A database and all calls to it, oldest first. -/
structure Transcript (σ : Type) where
  database : σ
  steps : List (Step σ)

namespace Transcript

variable {σ α : Type}

/-- Makes a call and writes it down. -/
def record (call : Call) (act : Action σ α) : Action (Transcript σ) α := fun t =>
  let (result, database) := act t.database
  (result, ⟨database, t.steps ++ [⟨⟨call, result.map fun _ => ()⟩, database⟩]⟩)

/-- The calls of a database, each of them written down. -/
def pool (inner : Pool σ) : Pool (Transcript σ) where
  execute sql params := record (.execute sql params) (inner.execute sql params)
  fetch sql params := record (.fetch sql params) (inner.fetch sql params)
  begin := record .begin inner.begin
  executeInside sql params := record (.executeInside sql params) (inner.executeInside sql params)
  commit := record .commit inner.commit
  rollback := record .rollback inner.rollback
  close := record .close inner.close

/-- The calls and their outcomes. -/
def exchanges (t : Transcript σ) : List Exchange := t.steps.map (·.exchange)

end Transcript

end Database

variable {σ α β : Type}

/-- A world with a blank transcript. -/
def World.recorded (w : World σ) : World (Transcript σ) := ⟨w.files, ⟨w.database, []⟩, w.events, w.clock⟩

/-- A world without its transcript. -/
def World.unrecorded (w : World (Transcript σ)) : World σ := ⟨w.files, w.database.database, w.events, w.clock⟩

namespace Runner

/-- A runner whose calls are written down. -/
def recorded (r : Runner σ) : Runner (Transcript σ) := ⟨r.journal, Transcript.pool r.pool⟩

/-- What an operation of a runner writes down. -/
def steps (op : Runner (Transcript σ) → Action (World (Transcript σ)) α) (r : Runner σ) (w : World σ) :
    List (Step σ) :=
  (op r.recorded w.recorded).2.database.steps

/-- The calls that an operation of a runner makes, and how they end. -/
def exchanges (op : Runner (Transcript σ) → Action (World (Transcript σ)) α) (r : Runner σ) (w : World σ) :
    List Exchange :=
  (steps op r w).map (·.exchange)

end Runner

/-! ## A transcript changes nothing -/

/-- An operation on a database with a transcript does what another one does without it. -/
def Mirrors (recorded : Action (World (Transcript σ)) α) (plain : Action (World σ) α) : Prop :=
  ∀ w, plain w.unrecorded = ((recorded w).1, (recorded w).2.unrecorded)

namespace Mirrors

theorem bind {x : Action (World (Transcript σ)) α} {y : Action (World σ) α}
    {f : α → Action (World (Transcript σ)) β} {g : α → Action (World σ) β} (hx : Mirrors x y)
    (hf : ∀ a, Mirrors (f a) (g a)) : Mirrors (x >>= f) (y >>= g) := by
  intro w
  rcases h : x w with ⟨_ | a, w'⟩
  · rw [Attempt.bind_error h, Attempt.bind_error (by rw [hx w, h])]
  · rw [Attempt.bind_ok h, Attempt.bind_ok (by rw [hx w, h]), hf a w']

theorem pure (a : α) : Mirrors (σ := σ) (Pure.pure a) (Pure.pure a) := fun _ => rfl

theorem throw (e : Error) : Mirrors (σ := σ) (α := α) (throw e) (throw e) := fun _ => rfl

theorem tell (level : Level) (message : String) : Mirrors (σ := σ) (tell level message) (tell level message) :=
  fun _ => rfl

theorem now : Mirrors (σ := σ) now now := fun _ => rfl

theorem ofExcept (x : Except Error α) : Mirrors (σ := σ) (Attempt.ofExcept x) (Attempt.ofExcept x) := fun _ => rfl

theorem readFiles (f : FileTree → Except Error α) : Mirrors (σ := σ) (readFiles f) (readFiles f) := fun _ => rfl

theorem record (call : Call) (act : Action σ α) :
    Mirrors (onDatabase (Transcript.record call act)) (onDatabase act) := fun _ => rfl

theorem restate {x : Action (World (Transcript σ)) α} {y : Action (World σ) α} (f : Error → Error)
    (hx : Mirrors x y) : Mirrors (x.restate f) (y.restate f) := by
  intro w
  show ((y w.unrecorded).1.mapError f, (y w.unrecorded).2) = _
  rw [hx w]
  rfl

theorem outcome {x : Action (World (Transcript σ)) α} {y : Action (World σ) α} (hx : Mirrors x y) :
    Mirrors x.outcome y.outcome := by
  intro w
  show (Except.ok (y w.unrecorded).1, (y w.unrecorded).2) = _
  rw [hx w]
  rfl

end Mirrors

namespace Runner

variable (r : Runner σ)

theorem mirrors_ensureTracking : Mirrors r.recorded.ensureTracking r.ensureTracking :=
  .bind (.restate _ (.record _ _)) fun _ => .pure ()

theorem mirrors_applied : Mirrors r.recorded.applied r.applied :=
  .bind (.record _ _) fun _ => .ofExcept _

theorem mirrors_latest : Mirrors r.recorded.latest r.latest :=
  .bind (.record _ _) fun rows =>
    match rows with
    | [] => .pure none
    | _ :: _ => .bind (.ofExcept _) fun _ => .pure _

theorem mirrors_abandon : Mirrors r.recorded.abandon r.abandon :=
  .bind (.outcome (.record _ _)) fun result =>
    match result with
    | .ok () => .pure ()
    | .error _ => .tell _ _

theorem mirrors_executeAll {announce : String → Action (World (Transcript σ)) Unit}
    {announce' : String → Action (World σ) Unit} (ha : ∀ sql, Mirrors (announce sql) (announce' sql))
    (wrap : String → Error → Error) :
    ∀ script : List Prepared, Mirrors (r.recorded.executeAll announce wrap script) (r.executeAll announce' wrap script)
  | [] => .pure ()
  | (sql, _) :: rest =>
    .bind (ha sql) fun _ => .bind (.outcome (.record _ _)) fun result =>
      match result with
      | .ok _ => mirrors_executeAll ha wrap rest
      | .error _ => .bind r.mirrors_abandon fun _ => .throw _

theorem mirrors_runUnit (m : Migration) (statements : List String) (bookkeeping : Prepared) :
    Mirrors (r.recorded.runUnit m statements bookkeeping) (r.runUnit m statements bookkeeping) :=
  .bind (.record _ _) fun _ => .bind (r.mirrors_executeAll (fun _ => .pure ()) _ _) fun _ =>
    .restate _ (.record _ _)

theorem mirrors_apply (m : Migration) : Mirrors (r.recorded.apply m) (r.apply m) :=
  .bind (.tell _ _) fun _ => .bind (r.mirrors_runUnit _ _ _) fun _ => .tell _ _

theorem mirrors_applyAll : ∀ migrations, Mirrors (r.recorded.applyAll migrations) (r.applyAll migrations)
  | [] => .pure ()
  | m :: rest => .bind (r.mirrors_apply m) fun _ => mirrors_applyAll rest

/-- Applying the pending migrations does the same with a transcript. -/
theorem mirrors_up : Mirrors r.recorded.up r.up :=
  .bind .now fun _ => .bind r.mirrors_ensureTracking fun _ => .bind (.readFiles _) fun _ =>
    .bind r.mirrors_applied fun _ => .bind (r.mirrors_applyAll _) fun _ => .bind .now fun _ => .pure _

theorem mirrors_down : Mirrors r.recorded.down r.down :=
  .bind r.mirrors_ensureTracking fun _ => .bind r.mirrors_latest fun latest =>
    match latest with
    | none => .bind (.tell _ _) fun _ => .pure none
    | some _ => .bind (.readFiles _) fun found =>
      match found with
      | none => .throw _
      | some _ => .bind (.tell _ _) fun _ => .bind (r.mirrors_runUnit _ _ _) fun _ =>
        .bind (.tell _ _) fun _ => .pure _

theorem mirrors_tellOrphans (migrations : List Migration) :
    ∀ records, Mirrors (r.recorded.tellOrphans migrations records) (r.tellOrphans migrations records)
  | [] => .pure ()
  | record :: rest => by
    unfold tellOrphans
    split
    · exact .bind (.tell _ _) fun _ => mirrors_tellOrphans migrations rest
    · exact mirrors_tellOrphans migrations rest

theorem mirrors_status : Mirrors r.recorded.status r.status :=
  .bind r.mirrors_ensureTracking fun _ => .bind (.readFiles _) fun _ => .bind r.mirrors_applied fun _ =>
    .bind (r.mirrors_tellOrphans _ _) fun _ => .pure _

theorem mirrors_clear (schema : Schema) : Mirrors (r.recorded.clear schema) (r.clear schema) :=
  .bind (.ofExcept _) fun _ => .bind (.record _ _) fun _ =>
    .bind (r.mirrors_executeAll (fun _ => .tell _ _) _ _) fun _ => .bind (.restate _ (.record _ _)) fun _ => .pure _

end Runner

/-- What an operation ensures of its transcript holds of the calls that it makes. -/
theorem Mirrors.ends (op : Runner (Transcript σ) → Action (World (Transcript σ)) α) {r : Runner σ}
    {plain : Action (World σ) α} {P : Transcript σ → Prop} {Q : α → Transcript σ → Prop}
    {E : Error → Transcript σ → Prop} {w : World σ} (hm : Mirrors (op r.recorded) plain)
    (h : Ensures w.files P (op r.recorded) Q E) (hP : P ⟨w.database, []⟩) :
    ∃ t : Transcript σ, t.database = (plain w).2.database ∧ t.exchanges = r.exchanges op w ∧
      match (plain w).1 with
      | .ok a => Q a t
      | .error e => E e t := by
  obtain ⟨-, hres⟩ := h w.recorded rfl hP
  have hrun : plain w = ((op r.recorded w.recorded).1, (op r.recorded w.recorded).2.unrecorded) := hm w.recorded
  rw [hrun]
  exact ⟨(op r.recorded w.recorded).2.database, rfl, rfl, hres⟩

/-! ## Transactions that took effect -/

namespace Database

/-- The statements of the open transaction, and those of the committed ones. -/
structure Ledger where
  opened : List Prepared
  closed : List (List Prepared)

namespace Ledger

/-- A ledger without transactions. -/
def empty : Ledger := ⟨[], []⟩

/-- Enters one call. Only calls that succeed count. -/
def add (l : Ledger) : Exchange → Ledger
  | ⟨.begin, .ok ()⟩ => { l with opened := [] }
  | ⟨.executeInside sql params, .ok ()⟩ => { l with opened := l.opened ++ [(sql, params)] }
  | ⟨.commit, .ok ()⟩ => ⟨[], l.closed ++ [l.opened]⟩
  | _ => l

end Ledger

/-- The ledger of some calls. -/
def ledger (exchanges : List Exchange) : Ledger := exchanges.foldl Ledger.add .empty

/-- The statements of the transactions that were committed, in order. -/
def committed (exchanges : List Exchange) : List (List Prepared) := (ledger exchanges).closed

theorem ledger_snoc (exchanges : List Exchange) (x : Exchange) :
    ledger (exchanges ++ [x]) = (ledger exchanges).add x := by
  simp [ledger, List.foldl_append]

end Database

end SchemaJournal
