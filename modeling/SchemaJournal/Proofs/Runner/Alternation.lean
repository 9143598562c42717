import SchemaJournal.Proofs.Journal.Stem
import SchemaJournal.Proofs.Runner.Contents

/-!
# Applied and reverted in turn

Over a whole run of a runner with a store, however its operations, changes of the journal and refused statements are
mixed, the transactions that keep the record of a migration apply and revert it in turn, and the store has one record of
it exactly while it is applied.

- `mark?` tells apart the statements that record a migration and those that remove its record, `marks` lists them over
  the transactions of a run;
- `Kept` ties the records to the marks, and a transaction of a runner keeps it (`Kept.up`, `Kept.down`, `Kept.bare`);
- `Move` is what can happen between two moments of a run, and every move keeps the law (`lawful_move`);
- `marks_alternate` is the law at every point of a run.
-/

namespace SchemaJournal

open Database Database.Store World

/-! ## Marks -/

/-- What a transaction did to the record of a migration. -/
inductive Mark where
  | applied
  | reverted
deriving DecidableEq, Repr

/-- The mark of a statement that keeps the record with an id. -/
def mark? (table id : String) (p : Prepared) : Option Mark :=
  if p = Tracking.removal table id then some .reverted
  else
    match p.2 with
    | [.text i, .text name, .int8 timestamp] =>
      if i = id ∧ p = Tracking.insertion table ⟨i, name, timestamp, [], []⟩ then some .applied else none
    | _ => none

/-- The marks of transactions, in order. -/
def marks (table id : String) (done : List (List Prepared)) : List Mark := done.flatMap (·.filterMap (mark? table id))

section Marks

variable {table id : String} {j : Journal} {m : Migration} {done : List (List Prepared)} {script : List Prepared}

theorem marks_snoc : marks table id (done ++ [script]) = marks table id done ++ script.filterMap (mark? table id) := by
  simp [marks]

theorem mark?_bare (sql : String) : mark? table id (sql, []) = none := by
  unfold mark? Tracking.removal
  rw [if_neg fun h => by cases (Prod.mk.inj h).2]

theorem marks_bare (sqls : List String) : (sqls.map (·, [])).filterMap (mark? table id) = [] := by
  rw [List.filterMap_map]
  exact List.filterMap_eq_nil_iff.mpr fun sql _ => mark?_bare sql

theorem mark?_insertion : mark? table id (Tracking.insertion table m) = if m.id = id then some .applied else none := by
  unfold mark?
  rw [if_neg fun h => by simp [Tracking.insertion, Tracking.removal] at h]
  show (if m.id = id ∧ _ then some Mark.applied else none) = _
  by_cases h : m.id = id
  · rw [if_pos ⟨h, rfl⟩, if_pos h]
  · rw [if_neg fun hp => h hp.1, if_neg h]

theorem mark?_removal (x : String) :
    mark? table id (Tracking.removal table x) = if x = id then some .reverted else none := by
  by_cases h : x = id
  · rw [h, if_pos rfl]
    exact if_pos rfl
  · unfold mark?
    rw [if_neg fun hp => h ?_, if_neg h]
    · rfl
    · simpa [Tracking.removal] using hp

theorem marks_upScript : (j.upScript m).filterMap (mark? j.table id) = if m.id = id then [.applied] else [] := by
  unfold Journal.upScript
  rw [List.filterMap_append, marks_bare, List.nil_append, List.filterMap_cons, mark?_insertion]
  by_cases h : m.id = id
  · simp [h]
  · simp [h]

theorem marks_downScript : (j.downScript m).filterMap (mark? j.table id) = if m.id = id then [.reverted] else [] := by
  unfold Journal.downScript
  rw [List.filterMap_append, marks_bare, List.nil_append, List.filterMap_cons, mark?_removal]
  by_cases h : m.id = id
  · simp [h]
  · simp [h]

end Marks

/-! ## Marks in turn -/

/-- A migration is applied first, and then reverted and applied in turn. -/
def Alternates (marks : List Mark) : Prop :=
  ∀ i (h : i < marks.length), marks[i] = if i % 2 = 0 then .applied else .reverted

theorem Alternates.nil : Alternates [] := fun _ h => absurd h (Nat.not_lt_zero _)

/-- The next mark is the one whose turn it is. -/
theorem Alternates.snoc {marks : List Mark} (h : Alternates marks) {mark : Mark}
    (hm : mark = if marks.length % 2 = 0 then .applied else .reverted) : Alternates (marks ++ [mark]) := by
  intro i hi
  rw [List.getElem_append]
  split
  next hlt => exact h i hlt
  next hge =>
    have hieq : i = marks.length := by
      rw [List.length_append, List.length_singleton] at hi
      omega
    subst hieq
    simpa using hm

/-- A migration is applied after an odd number of marks. -/
theorem Alternates.getLast?_eq_applied {marks : List Mark} (h : Alternates marks) :
    marks.getLast? = some .applied ↔ marks.length % 2 = 1 := by
  rcases Nat.eq_zero_or_pos marks.length with hz | hpos
  · rw [List.length_eq_zero_iff.mp hz]
    simp
  · have hlast := h (marks.length - 1) (by omega)
    rw [List.getLast?_eq_getElem?, List.getElem?_eq_getElem (by omega), Option.some_inj, hlast]
    by_cases hodd : marks.length % 2 = 1
    · rw [if_pos (by omega)]
      simp [hodd]
    · rw [if_neg (by omega)]
      simp [hodd]

/-! ## Records and marks -/

/-- The records of a store are those of the migrations that are applied, and all of them have stems as ids. -/
structure Kept (table : String) (done : List (List Prepared)) (k : Contents) : Prop where
  stems : ∀ r ∈ k.records, Path.IsStem r.id
  alternates : ∀ id, Alternates (marks table id done)
  parity : ∀ id, k.records.countP (·.id == id) = (marks table id done).length % 2

namespace Kept

variable {table id : String} {j : Journal} {m : Migration} {done : List (List Prepared)} {k k' : Contents}

theorem empty (table : String) : Kept table [] Store.empty.contents :=
  ⟨by simp [Store.empty, contents], fun _ => .nil, fun _ => rfl⟩

/-- A migration without a record is not applied. -/
theorem even (h : Kept table done k) (hr : ∀ r ∈ k.records, r.id ≠ id) : (marks table id done).length % 2 = 0 := by
  rw [← h.parity, List.countP_eq_zero]
  simpa using hr

/-- A migration with a record is applied. -/
theorem odd (h : Kept table done k) {r : Record} (hr : r ∈ k.records) : (marks table r.id done).length % 2 = 1 := by
  have hpos : 0 < k.records.countP (·.id == r.id) := List.countP_pos_iff.mpr ⟨r, hr, by simp⟩
  rw [h.parity] at hpos
  omega

/-- A transaction that applies a migration adds its record, and it was its turn. -/
theorem up (h : Kept j.table done k) (hm : Path.IsStem m.id) (ht : Takes (j.upScript m) k k') :
    Kept j.table (done ++ [j.upScript m]) k' := by
  obtain ⟨tables, moment, -, hnew, rfl⟩ := takes_up ht
  have heven := h.even hnew
  refine ⟨fun r hr => ?_, fun id => ?_, fun id => ?_⟩
  · rcases List.mem_append.mp hr with hr | hr
    · exact h.stems r hr
    · rw [List.mem_singleton.mp hr]
      exact hm
  · rw [marks_snoc, marks_upScript]
    by_cases hid : m.id = id
    · subst hid
      rw [if_pos rfl]
      exact (h.alternates m.id).snoc (by rw [if_pos heven])
    · rw [if_neg hid, List.append_nil]
      exact h.alternates id
  · have hp := h.parity id
    rw [marks_snoc, marks_upScript, List.countP_append, hp]
    by_cases hid : m.id = id
    · subst hid
      simp
      omega
    · simp [hid]

/-- A transaction that reverts a migration with a record removes it, and it was its turn. -/
theorem down (h : Kept j.table done k) {r : Record} (hr : r ∈ k.records) (hm : m.id = r.id)
    (ht : Takes (j.downScript m) k k') : Kept j.table (done ++ [j.downScript m]) k' := by
  obtain ⟨tables, -, rfl⟩ := takes_down ht
  have hodd := h.odd hr
  rw [← hm] at hodd
  refine ⟨fun r hr => h.stems r (List.mem_filter.mp hr).1, fun id => ?_, fun id => ?_⟩
  · rw [marks_snoc, marks_downScript]
    by_cases hid : m.id = id
    · subst hid
      rw [if_pos rfl]
      exact (h.alternates m.id).snoc (by rw [if_neg (by omega)])
    · rw [if_neg hid, List.append_nil]
      exact h.alternates id
  · rw [marks_snoc, marks_downScript, List.countP_filter]
    by_cases hid : m.id = id
    · subst hid
      have hnone : k.records.countP (fun r => r.id == m.id && r.id != m.id) = 0 := by simp [List.countP_eq_zero]
      rw [hnone]
      simp
      omega
    · have hsame : k.records.countP (fun r => r.id == id && r.id != m.id) = k.records.countP (·.id == id) := by
        refine List.countP_congr fun r _ => ?_
        simp
        rintro rfl
        exact Ne.symm hid
      rw [hsame, if_neg hid, List.append_nil]
      exact h.parity id

theorem bare {sqls : List String} (h : Kept table done k) (ht : Takes (sqls.map (·, [])) k k') :
    Kept table (done ++ [sqls.map (·, [])]) k' := by
  obtain ⟨tables, -, rfl⟩ := takes_bare ht
  have hmarks : ∀ id, marks table id (done ++ [sqls.map (·, [])]) = marks table id done := fun id => by
    rw [marks_snoc, marks_bare, List.append_nil]
  exact ⟨h.stems, fun id => hmarks id ▸ h.alternates id, fun id => hmarks id ▸ h.parity id⟩

end Kept

/-! ## Operations keep the law -/

/-- The store is at rest, and its records are kept. -/
def Lawful (j : Journal) (t : Transcript Memory) : Prop :=
  ∃ failing k done, Rests (Kept j.table) failing k done t

section Lawful

variable {files : FileTree} {j : Journal} {failing : List String} {k : Contents} {done : List (List Prepared)}

theorem Rests.toLawful {t : Transcript Memory} (h : Rests (Kept j.table) failing k done t) : Lawful j t :=
  ⟨failing, k, done, h⟩

theorem ensures_lawful {α : Type} {act : Action (World (Transcript Memory)) α}
    (h : ∀ failing k done, Ensures files (Rests (Kept j.table) failing k done) act (fun _ => Lawful j)
      fun _ => Lawful j) : Ensures files (Lawful j) act (fun _ => Lawful j) fun _ => Lawful j :=
  Ensures.choose fun failing => Ensures.choose fun k => Ensures.choose fun done => h failing k done

theorem lawful_ensureTracking : Ensures files (Rests (Kept j.table) failing k done) j.session.ensureTracking
    (fun _ t => Rests (Kept j.table) failing k done t ∧ t.database.store.tracking = true) fun _ => Lawful j :=
  (rests_ensureTracking j).mono (fun _ _ h => h.2) fun _ _ h => h.2.toLawful

theorem lawful_applied : Ensures files
    (fun t => Rests (Kept j.table) failing k done t ∧ t.database.store.tracking = true) j.session.applied
    (fun _ => Rests (Kept j.table) failing k done) fun _ => Lawful j :=
  (rests_applied j).mono (fun _ _ h => h.2) fun _ _ h => h.2.toLawful

theorem lawful_up : Ensures files (Lawful j) j.session.up (fun _ => Lawful j) fun _ => Lawful j := by
  refine ensures_lawful fun failing k done => ?_
  have hkept : ∀ migrations, j.list files = .ok migrations → ∀ m ∈ migrations, ∀ done k k', Kept j.table done k →
      Takes (j.upScript m) k k' → Kept j.table (done ++ [j.upScript m]) k' := by
    intro migrations hlist m hm done k k' hk htakes
    exact hk.up (Journal.isStem_of_list hlist hm) htakes
  refine (rests_up j hkept).mono ?_ ?_
  · rintro _ t ⟨_, _, ht⟩
    exact ht.toLawful
  · rintro e t ⟨_, _, ht⟩
    exact ht.toLawful

theorem lawful_down : Ensures files (Lawful j) j.session.down (fun _ => Lawful j) fun _ => Lawful j := by
  refine ensures_lawful fun failing k done => ?_
  have hkept : ∀ r m, IsLatest k.records r → j.find files r.id = .ok (some m) → ∀ k', Kept j.table done k →
      Takes (j.downScript m) k k' → Kept j.table (done ++ [j.downScript m]) k' := by
    intro r m hr hf k' hk htakes
    exact hk.down hr.1 (Journal.id_of_find (hk.stems r hr.1) hf) htakes
  have hdown : ∀ before, Ensures files (fun t => Rests (Kept j.table) failing k done t ∧ t.exchanges = before)
      j.session.down (fun _ => Lawful j) fun _ => Lawful j := by
    intro before
    refine (ensures_down before hkept).mono ?_ ?_
    · rintro id t (⟨-, -, ht, -⟩ | ⟨_, _, _, -, -, -, -, ht⟩)
      · exact ht.toLawful
      · exact ht.toLawful
    · rintro e t ⟨-, ht⟩
      exact ht.toLawful
  exact (Ensures.choose hdown).weaken (fun t ht => ⟨t.exchanges, ht, rfl⟩) (fun _ _ h => h) fun _ _ h => h

theorem ensures_tellOrphans {P : Transcript Memory → Prop} {E : Error → Transcript Memory → Prop}
    (migrations : List Migration) :
    ∀ records, Ensures files P (j.session.tellOrphans migrations records) (fun _ => P) E
  | [] => Ensures.keep
  | record :: rest => by
    unfold Runner.tellOrphans
    split
    · exact Ensures.bind Ensures.tell fun _ => ensures_tellOrphans migrations rest
    · exact ensures_tellOrphans migrations rest

theorem lawful_status : Ensures files (Lawful j) j.session.status (fun _ => Lawful j) fun _ => Lawful j := by
  refine ensures_lawful fun failing k done => ?_
  refine Ensures.bind lawful_ensureTracking fun _ => ?_
  refine Ensures.bind (Ensures.readFiles (fun _ _ _ h => h) fun _ _ _ h => h.1.toLawful) fun migrations => ?_
  refine Ensures.bind lawful_applied fun records => ?_
  refine Ensures.bind (ensures_tellOrphans migrations records) fun _ => ?_
  exact Ensures.pure fun _ h => h.toLawful

theorem lawful_clear (schema : Schema) :
    Ensures files (Lawful j) (j.session.clear schema) (fun _ => Lawful j) fun _ => Lawful j := by
  refine ensures_lawful fun failing k done => ?_
  have hkept : ∀ ordered k', order schema.tables = .ok ordered → Kept j.table done k →
      Takes (clearScript ordered) k k' → Kept j.table (done ++ [clearScript ordered]) k' := by
    intro ordered k' _ hk htakes
    rw [clearScript_eq] at htakes ⊢
    exact hk.bare htakes
  refine (rests_clear j schema hkept).mono ?_ ?_
  · rintro _ t ⟨_, -, _, -, ht⟩
    exact ht.toLawful
  · rintro e t ⟨-, ht⟩
    exact ht.toLawful

end Lawful

/-! ## Runs -/

/-- What can happen between two moments of a run. -/
inductive Move where
  | up
  | down
  | status
  | clear (schema : Schema)
  | save (m : Migration)
  /-- Any other change of the files. -/
  | edit (files : FileTree)
  /-- From now on statements with the pattern are refused. -/
  | failOn (pattern : String)

/-- Makes a memory refuse all statements with a pattern. -/
def Database.Memory.failOn (pattern : String) (m : Memory) : Memory := { m with store := m.store.failOn pattern }

/-- Changes a database behind its transcript. -/
def Database.Transcript.change {σ : Type} (f : σ → σ) (t : Transcript σ) : Transcript σ :=
  { t with database := f t.database }

namespace Move

variable {σ : Type}

/-- The world after a move. -/
def run (r : Runner σ) (failOn : String → σ → σ) (w : World σ) : Move → World σ
  | .up => (r.up w).2
  | .down => (r.down w).2
  | .status => (r.status w).2
  | .clear schema => (r.clear schema w).2
  | .save m => (onFiles (r.journal.save m) w).2
  | .edit files => { w with files }
  | .failOn pattern => { w with database := failOn pattern w.database }

/-- The world after several moves. -/
def runAll (r : Runner σ) (failOn : String → σ → σ) (w : World σ) (moves : List Move) : World σ :=
  moves.foldl (run r failOn) w

theorem run_unrecorded (r : Runner σ) (failOn : String → σ → σ) (w : World (Transcript σ)) (move : Move) :
    (run r.recorded (fun pattern => Transcript.change (failOn pattern)) w move).unrecorded =
      run r failOn w.unrecorded move := by
  cases move with
  | up => exact (congrArg Prod.snd (r.mirrors_up w)).symm
  | down => exact (congrArg Prod.snd (r.mirrors_down w)).symm
  | status => exact (congrArg Prod.snd (r.mirrors_status w)).symm
  | clear schema => exact (congrArg Prod.snd (r.mirrors_clear schema w)).symm
  | save m => rfl
  | edit files => rfl
  | failOn pattern => rfl

/-- A transcript changes nothing in a run. -/
theorem runAll_unrecorded (r : Runner σ) (failOn : String → σ → σ) (w : World (Transcript σ)) (moves : List Move) :
    (runAll r.recorded (fun pattern => Transcript.change (failOn pattern)) w moves).unrecorded =
      runAll r failOn w.unrecorded moves := by
  induction moves generalizing w with
  | nil => rfl
  | cons move rest ih =>
    show (runAll _ _ (run _ _ w move) rest).unrecorded = runAll r failOn (run r failOn w.unrecorded move) rest
    rw [ih, run_unrecorded]

/-- The run of a runner for a store, with its calls written down. -/
def session (j : Journal) : World (Transcript Memory) → List Move → World (Transcript Memory) :=
  runAll j.session fun pattern => Transcript.change (Memory.failOn pattern)

variable {j : Journal} {w : World (Transcript Memory)}

theorem lawful_move (h : Lawful j w.database) (move : Move) :
    Lawful j (run j.session (fun pattern => Transcript.change (Memory.failOn pattern)) w move).database := by
  cases move with
  | up => exact lawful_up.either rfl h
  | down => exact lawful_down.either rfl h
  | status => exact lawful_status.either rfl h
  | clear schema => exact (lawful_clear schema).either rfl h
  | save m => exact h
  | edit files => exact h
  | failOn pattern =>
    obtain ⟨failing, k, done, ht⟩ := h
    exact ⟨failing ++ [pattern], k, done, ht.contents, congrArg (· ++ [pattern]) ht.failing, ht.transactions, ht.lawful,
      ht.always⟩

/-- A run keeps the law. -/
theorem lawful_session (h : Lawful j w.database) (moves : List Move) : Lawful j (session j w moves).database := by
  induction moves generalizing w with
  | nil => exact h
  | cons move rest ih => exact ih (lawful_move h move)

end Move

theorem lawful_empty (j : Journal) : Lawful j ⟨Memory.empty, []⟩ :=
  (rests_blank Memory.empty (.empty j.table)).toLawful

/-- The transactions with an id apply and revert in turn, and it has one record exactly while it is applied. -/
structure Tracked (table id : String) (exchanges : List Exchange) (records : List Record) : Prop where
  alternates : Alternates (marks table id (committed exchanges))
  recorded : records.countP (·.id == id) =
    if (marks table id (committed exchanges)).getLast? = some .applied then 1 else 0

theorem Kept.tracked {table id : String} {exchanges : List Exchange} {k : Contents}
    (h : Kept table (committed exchanges) k) : Tracked table id exchanges k.records where
  alternates := h.alternates id
  recorded := by
    rw [h.parity]
    split
    next hlast => exact (h.alternates id).getLast?_eq_applied.mp hlast
    next hlast =>
      have := mt (h.alternates id).getLast?_eq_applied.mpr hlast
      omega

/-- **Applied and reverted in turn.** In a run that starts with an empty database, no migration is applied twice without
being reverted in between, none is reverted that is not applied, and at every point there is one record of every
migration that is applied and none of the others. -/
theorem session_tracked (j : Journal) (files : FileTree) (events : List Event) (clock : Int64) (moves : List Move) :
    let start : World Memory := ⟨files, Memory.empty, events, clock⟩
    let last := Move.session j start.recorded moves
    last.unrecorded = Move.runAll ⟨j, Memory.pool⟩ Memory.failOn start moves ∧
      ∀ id, Tracked j.table id last.database.exchanges last.database.database.store.records ∧
        ∀ before step after, last.database.steps = before ++ step :: after →
          Tracked j.table id ((before ++ [step]).map (·.exchange)) step.database.store.records := by
  intro start last
  refine ⟨Move.runAll_unrecorded ⟨j, Memory.pool⟩ Memory.failOn start.recorded moves, fun id => ?_⟩
  have hstart : Lawful j start.recorded.database := lawful_empty j
  obtain ⟨failing, k, done, ht⟩ := Move.lawful_session hstart moves
  refine ⟨?_, fun before step after hsteps => (ht.always before step after hsteps).tracked⟩
  have hlaw := ht.lawful
  rw [← ht.transactions, ← ht.contents] at hlaw
  exact hlaw.tracked

end SchemaJournal
