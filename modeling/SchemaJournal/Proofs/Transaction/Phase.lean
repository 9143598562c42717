import SchemaJournal.Proofs.Transaction.Transcript

/-!
# Phases of an operation

`Disciplined complete reported trace result` says of the calls of an operation, and of its result, what a database may
rely on: every transaction that is begun is ended exactly once and before any other call; it is committed only when a
complete script was executed in it; a statement that fails is followed by the rollback and by nothing else; and the
first failure is the one that the operation reports.

The calls drive a machine of four phases (`Phase.Next`): outside of a transaction, inside one, about to abandon one,
and over. What follows the machine is disciplined (`Disciplined.of_leads`).
-/

namespace SchemaJournal

open Database World

/-! ## Calls -/

namespace Database.Exchange

/-- A call inside a transaction that executes a statement. -/
def IsStatement (x : Exchange) : Prop := ∃ sql params, x.call = .executeInside sql params

/-- A call that needs an open transaction. -/
def IsInside (x : Exchange) : Prop := x.IsStatement ∨ x.call = .commit ∨ x.call = .rollback

/-- A statement that was executed. -/
def executed (s : Prepared) : Exchange := ⟨.executeInside s.1 s.2, .ok ()⟩

theorem executed_isStatement (s : Prepared) : (executed s).IsStatement := ⟨s.1, s.2, rfl⟩

end Database.Exchange

/-- What a database may rely on. `complete` are the scripts that a transaction may be committed with, and `reported`
relates a call and its error to the error that an operation gives for it. -/
structure Disciplined {α : Type} (complete : List Prepared → Prop) (reported : Call → Error → Error → Prop)
    (trace : List Exchange) (result : Except Error α) : Prop where
  /-- A transaction holds statements only, and one commit or one rollback ends it before any other call. -/
  ended : ∀ before after, trace = before ++ ⟨.begin, .ok ()⟩ :: after → ∃ inside ending rest,
    after = inside ++ ending :: rest ∧ (∀ x ∈ inside, x.IsStatement) ∧
      (ending.call = .commit ∨ ending.call = .rollback) ∧ ∀ x ∈ rest.head?, ¬x.IsInside
  /-- Statements, commits and rollbacks stand in a transaction that was begun. -/
  opened : ∀ before x after, trace = before ++ x :: after → x.IsInside → ∃ outside inside,
    before = outside ++ ⟨.begin, .ok ()⟩ :: inside ∧ ∀ y ∈ inside, y.IsStatement
  /-- Before a commit a complete script was executed. -/
  committed : ∀ before outcome after, trace = before ++ ⟨.commit, outcome⟩ :: after → ∃ outside script,
    complete script ∧ before = outside ++ ⟨.begin, .ok ()⟩ :: script.map Exchange.executed
  /-- After a statement that fails, the rollback is the next call and the last one. -/
  aborted : ∀ before sql params e after, trace = before ++ ⟨.executeInside sql params, .error e⟩ :: after →
    ∃ outcome, after = [⟨.rollback, outcome⟩]
  /-- Only after such a statement there is a rollback. -/
  rolledBack : ∀ before outcome after, trace = before ++ ⟨.rollback, outcome⟩ :: after → after = [] ∧
    ∃ earlier sql params e, before = earlier ++ [⟨.executeInside sql params, .error e⟩]
  /-- After any other call that fails there is none. -/
  stopped : ∀ before call e after, trace = before ++ ⟨call, .error e⟩ :: after →
    (∀ sql params, call ≠ .executeInside sql params) → after = []
  /-- The first call that fails is the one that is reported. -/
  reported : ∀ before call e after, trace = before ++ ⟨call, .error e⟩ :: after → (∀ x ∈ before, x.outcome = .ok ()) →
    ∃ e', result = .error e' ∧ reported call e e'

/-! ## Phases -/

/-- Where an operation stands between two calls. -/
inductive Phase where
  /-- Outside of a transaction. -/
  | idle
  /-- Inside of one, after these statements. -/
  | inside (script : List Prepared)
  /-- Inside of one, after a statement that failed. -/
  | aborting (sql : String) (params : List Value) (e : Error)
  /-- After a call that failed. -/
  | ended (call : Call) (e : Error)

namespace Phase

/-- The calls that are made in a phase, and the phases after them. -/
inductive Next (complete : List Prepared → Prop) : Phase → Exchange → Phase → Prop
  | execute (sql : String) (params : List Value) : Next complete .idle ⟨.execute sql params, .ok ()⟩ .idle
  | executeFailed (sql : String) (params : List Value) (e : Error) :
      Next complete .idle ⟨.execute sql params, .error e⟩ (.ended (.execute sql params) e)
  | fetch (sql : String) (params : List Value) : Next complete .idle ⟨.fetch sql params, .ok ()⟩ .idle
  | fetchFailed (sql : String) (params : List Value) (e : Error) :
      Next complete .idle ⟨.fetch sql params, .error e⟩ (.ended (.fetch sql params) e)
  | begin : Next complete .idle ⟨.begin, .ok ()⟩ (.inside [])
  | beginFailed (e : Error) : Next complete .idle ⟨.begin, .error e⟩ (.ended .begin e)
  | statement (script : List Prepared) (s : Prepared) :
      Next complete (.inside script) (Exchange.executed s) (.inside (script ++ [s]))
  | statementFailed (script : List Prepared) (sql : String) (params : List Value) (e : Error) :
      Next complete (.inside script) ⟨.executeInside sql params, .error e⟩ (.aborting sql params e)
  | commit (script : List Prepared) : complete script → Next complete (.inside script) ⟨.commit, .ok ()⟩ .idle
  | commitFailed (script : List Prepared) (e : Error) :
      complete script → Next complete (.inside script) ⟨.commit, .error e⟩ (.ended .commit e)
  | rollback (sql : String) (params : List Value) (e : Error) (outcome : Except Error Unit) :
      Next complete (.aborting sql params e) ⟨.rollback, outcome⟩ (.ended (.executeInside sql params) e)

/-- Several calls, one after the other. -/
inductive Leads (complete : List Prepared → Prop) : Phase → List Exchange → Phase → Prop
  | nil (p : Phase) : Leads complete p [] p
  | cons {p q r : Phase} {x : Exchange} {rest : List Exchange} :
      Next complete p x q → Leads complete q rest r → Leads complete p (x :: rest) r

/-- An operation that is not in the midst of a transaction. -/
def AtRest : Phase → Prop
  | .idle | .ended .. => True
  | .inside _ | .aborting .. => False

variable {complete : List Prepared → Prop} {p q r : Phase} {x : Exchange} {before after : List Exchange}

theorem Leads.snoc (h : Leads complete p before q) (hx : Next complete q x r) :
    Leads complete p (before ++ [x]) r := by
  induction h with
  | nil p => exact .cons hx (.nil _)
  | cons hp _ ih => exact .cons hp (ih hx)

theorem Leads.split : ∀ {before : List Exchange} {p : Phase}, Leads complete p (before ++ after) r →
    ∃ q, Leads complete p before q ∧ Leads complete q after r
  | [], p, h => ⟨p, .nil p, h⟩
  | _ :: _, _, h => by
    cases h with
    | cons hx h =>
      obtain ⟨q, h1, h2⟩ := Leads.split h
      exact ⟨q, .cons hx h1, h2⟩

theorem Leads.around (h : Leads complete p (before ++ x :: after) r) :
    ∃ q q', Leads complete p before q ∧ Next complete q x q' ∧ Leads complete q' after r := by
  obtain ⟨q, h1, h2⟩ := h.split
  cases h2 with
  | cons hx h2 => exact ⟨q, _, h1, hx, h2⟩

/-- Nothing is called once an operation is over. -/
theorem Leads.of_ended {call : Call} {e : Error} (h : Leads complete (.ended call e) after r) :
    after = [] ∧ r = .ended call e := by
  cases h with
  | nil => exact ⟨rfl, rfl⟩
  | cons hx _ => cases hx

/-- After a statement that failed there is a rollback and nothing else. -/
theorem Leads.of_aborting {sql : String} {params : List Value} {e : Error}
    (h : Leads complete (.aborting sql params e) after r) (hr : r.AtRest) :
    (∃ outcome, after = [⟨.rollback, outcome⟩]) ∧ r = .ended (.executeInside sql params) e := by
  cases h with
  | nil => exact hr.elim
  | cons hx h =>
    cases hx with
    | rollback _ _ _ outcome =>
      obtain ⟨rfl, rfl⟩ := h.of_ended
      exact ⟨⟨outcome, rfl⟩, rfl⟩

theorem Next.not_inside (h : Next complete .idle x q) : ¬x.IsInside := by
  rintro (⟨sql, params, hx⟩ | hx | hx) <;> cases h <;> cases hx

/-- Outside of a transaction the next call needs none. -/
theorem Leads.head_of_idle (h : Leads complete .idle after r) : ∀ y ∈ after.head?, ¬y.IsInside := by
  cases h with
  | nil => intro y hy; cases hy
  | cons hx _ =>
    intro y hy
    cases Option.some.inj hy
    exact hx.not_inside

/-- A transaction that is open comes to its end. -/
theorem Leads.of_inside {script : List Prepared} (h : Leads complete (.inside script) after r) (hr : r.AtRest) :
    ∃ inside ending rest, after = inside ++ ending :: rest ∧ (∀ x ∈ inside, x.IsStatement) ∧
      (ending.call = .commit ∨ ending.call = .rollback) ∧ ∀ x ∈ rest.head?, ¬x.IsInside := by
  generalize hp : Phase.inside script = p at h
  induction h generalizing script with
  | nil => subst hp; exact hr.elim
  | @cons p q r x rest hx hrest ih =>
    subst hp
    cases hx with
    | statement _ s =>
      obtain ⟨inside, ending, rest', rfl, hin, hend, hhead⟩ := ih hr rfl
      refine ⟨Exchange.executed s :: inside, ending, rest', rfl, fun y hy => ?_, hend, hhead⟩
      rcases List.mem_cons.mp hy with rfl | hy
      · exact Exchange.executed_isStatement s
      · exact hin y hy
    | statementFailed _ sql params e =>
      obtain ⟨⟨outcome, rfl⟩, -⟩ := hrest.of_aborting hr
      refine ⟨[⟨.executeInside sql params, .error e⟩], _, [], rfl, fun y hy => ?_, .inr rfl, by simp⟩
      rw [List.mem_singleton.mp hy]
      exact ⟨sql, params, rfl⟩
    | commit => exact ⟨[], _, rest, rfl, by simp, .inl rfl, hrest.head_of_idle⟩
    | commitFailed =>
      obtain ⟨rfl, -⟩ := hrest.of_ended
      exact ⟨[], _, [], rfl, by simp, .inl rfl, by simp⟩

/-- Inside a transaction the calls since its beginning are its statements. -/
theorem Leads.to_inside {script : List Prepared} (h : Leads complete p before (.inside script)) :
    (∃ start rest, p = .inside start ∧ script = start ++ rest ∧ before = rest.map Exchange.executed) ∨
      ∃ outside, before = outside ++ ⟨.begin, .ok ()⟩ :: script.map Exchange.executed := by
  generalize hq : Phase.inside script = q at h
  induction h with
  | nil => exact .inl ⟨script, [], hq.symm, by simp, rfl⟩
  | @cons p q r x rest hx _ ih =>
    rcases ih hq with ⟨start, more, rfl, rfl, rfl⟩ | ⟨outside, rfl⟩
    · cases hx with
      | begin => exact .inr ⟨[], by simp⟩
      | statement script s => exact .inl ⟨script, s :: more, rfl, by simp, rfl⟩
    · exact .inr ⟨x :: outside, rfl⟩

theorem Leads.begun {script : List Prepared} (h : Leads complete .idle before (.inside script)) :
    ∃ outside, before = outside ++ ⟨.begin, .ok ()⟩ :: script.map Exchange.executed := by
  rcases h.to_inside with ⟨_, _, hp, _⟩ | h
  · cases hp
  · exact h

/-- A phase in which a transaction is abandoned follows a statement that failed. -/
theorem Leads.to_aborting {sql : String} {params : List Value} {e : Error}
    (h : Leads complete .idle before (.aborting sql params e)) : ∃ earlier script,
      before = earlier ++ [⟨.executeInside sql params, .error e⟩] ∧ Leads complete .idle earlier (.inside script) := by
  rcases List.eq_nil_or_concat before with rfl | ⟨earlier, x, rfl⟩
  · cases h
  · rw [List.concat_eq_append] at h ⊢
    obtain ⟨q, q', h1, hx, h2⟩ := h.around
    cases h2
    cases hx with
    | statementFailed script _ _ _ => exact ⟨earlier, script, rfl, h1⟩

/-- As long as no call failed, an operation goes on. -/
theorem Leads.of_ok (h : Leads complete p before q) (hok : ∀ x ∈ before, x.outcome = .ok ())
    (hp : p = .idle ∨ ∃ script, p = .inside script) : q = .idle ∨ ∃ script, q = .inside script := by
  induction h with
  | nil => exact hp
  | @cons p q r x rest hx _ ih =>
    have hxo : x.outcome = .ok () := hok x List.mem_cons_self
    refine ih (fun y hy => hok y (List.mem_cons_of_mem _ hy)) ?_
    cases hx with
    | execute | fetch | commit => exact .inl rfl
    | begin | statement => exact .inr ⟨_, rfl⟩
    | executeFailed | fetchFailed | beginFailed | statementFailed | commitFailed => cases hxo
    | rollback => rcases hp with h | ⟨_, h⟩ <;> cases h

/-- After the first call that fails an operation can only end with its error. -/
theorem Leads.of_first_failure {call : Call} {e : Error}
    (h : Leads complete .idle (before ++ ⟨call, .error e⟩ :: after) r) (hr : r.AtRest)
    (hok : ∀ x ∈ before, x.outcome = .ok ()) : r = .ended call e := by
  obtain ⟨q, q', h1, hx, h2⟩ := h.around
  have hq := h1.of_ok hok (.inl rfl)
  cases hx with
  | executeFailed | fetchFailed | beginFailed | commitFailed => exact h2.of_ended.2
  | statementFailed => exact (h2.of_aborting hr).2
  | rollback => rcases hq with h | ⟨_, h⟩ <;> cases h

end Phase

/-! ## From phases to the discipline -/

/-- How an operation that stops in a phase may end. -/
def Phase.Allows {α : Type} (reported : Call → Error → Error → Prop) (result : Except Error α) : Phase → Prop
  | .idle => True
  | .ended call e => ∃ e', result = .error e' ∧ reported call e e'
  | .inside _ | .aborting .. => False

theorem Phase.Allows.atRest {α : Type} {reported : Call → Error → Error → Prop} {result : Except Error α} :
    ∀ {p : Phase}, p.Allows reported result → p.AtRest
  | .idle, _ | .ended .., _ => trivial

/-- Calls that follow the phases are disciplined. -/
theorem Disciplined.of_leads {α : Type} {complete : List Prepared → Prop} {reported : Call → Error → Error → Prop}
    {trace : List Exchange} {result : Except Error α} {p : Phase} (h : Phase.Leads complete .idle trace p)
    (hp : p.Allows reported result) : Disciplined complete reported trace result where
  ended := by
    rintro before after rfl
    obtain ⟨q, q', -, hx, h2⟩ := h.around
    cases hx
    exact h2.of_inside hp.atRest
  opened := by
    rintro before x after rfl hin
    obtain ⟨q, q', h1, hx, -⟩ := h.around
    cases q with
    | idle => exact absurd hin hx.not_inside
    | ended => cases hx
    | inside script =>
      obtain ⟨outside, rfl⟩ := h1.begun
      refine ⟨outside, _, rfl, fun y hy => ?_⟩
      obtain ⟨s, _, rfl⟩ := List.mem_map.mp hy
      exact Exchange.executed_isStatement s
    | aborting sql params e =>
      obtain ⟨earlier, script, rfl, h0⟩ := h1.to_aborting
      obtain ⟨outside, rfl⟩ := h0.begun
      refine ⟨outside, _, by rw [List.append_assoc, List.cons_append], fun y hy => ?_⟩
      rcases List.mem_append.mp hy with hy | hy
      · obtain ⟨s, _, rfl⟩ := List.mem_map.mp hy
        exact Exchange.executed_isStatement s
      · rw [List.mem_singleton.mp hy]
        exact ⟨sql, params, rfl⟩
  committed := by
    rintro before outcome after rfl
    obtain ⟨q, q', h1, hx, -⟩ := h.around
    cases hx with
    | commit script hc | commitFailed script _ hc =>
      obtain ⟨outside, ho⟩ := h1.begun
      exact ⟨outside, script, hc, ho⟩
  aborted := by
    rintro before sql params e after rfl
    obtain ⟨q, q', -, hx, h2⟩ := h.around
    cases hx
    exact (h2.of_aborting hp.atRest).1
  rolledBack := by
    rintro before outcome after rfl
    obtain ⟨q, q', h1, hx, h2⟩ := h.around
    cases hx with
    | rollback sql params e =>
      obtain ⟨earlier, -, rfl, -⟩ := h1.to_aborting
      exact ⟨h2.of_ended.1, earlier, sql, params, e, rfl⟩
  stopped := by
    rintro before call e after rfl hcall
    obtain ⟨q, q', -, hx, h2⟩ := h.around
    cases hx with
    | executeFailed | fetchFailed | beginFailed | commitFailed | rollback => exact h2.of_ended.1
    | statementFailed _ sql params => exact absurd rfl (hcall sql params)
  reported := by
    rintro before call e after rfl hok
    obtain rfl : p = .ended call e := h.of_first_failure hp.atRest hok
    exact hp

end SchemaJournal
