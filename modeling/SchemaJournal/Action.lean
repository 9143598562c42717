import SchemaJournal.Error

/-!
# Actions

An action works on a state and gives a result or an error. What it changed before it failed stays changed.
-/

namespace SchemaJournal

/-- An operation on a state that can fail with an error of some kind. -/
abbrev Attempt (ε σ α : Type) := ExceptT ε (StateM σ) α

/-- An operation on a state that can fail with an error of this library. -/
abbrev Action (σ α : Type) := Attempt Error σ α

/-- An attempt that only looks at the state. -/
def Attempt.reading (f : σ → Except ε α) : Attempt ε σ α := fun s => (f s, s)

/-- An attempt that has ended already. -/
def Attempt.ofExcept (result : Except ε α) : Attempt ε σ α := fun s => (result, s)

/-- An attempt that puts a new state in the place of the old one, or fails and leaves it. -/
def Attempt.updating (f : σ → Except ε σ) : Attempt ε σ Unit := fun s =>
  match f s with
  | .ok s' => (.ok (), s')
  | .error e => (.error e, s)

/-- Works on a part of the state. -/
def Attempt.within (get : σ → τ) (set : τ → σ → σ) (act : Attempt ε τ α) : Attempt ε σ α := fun s =>
  let (result, part) := act (get s)
  (result, set part s)

/-- Restates the error of an attempt. -/
def Attempt.restate (f : ε → ε') (act : Attempt ε σ α) : Attempt ε' σ α := fun s =>
  let (result, s) := act s
  (result.mapError f, s)

/-- An attempt that never fails itself: its result tells how another one ended. -/
def Attempt.outcome (act : Attempt ε σ α) : Attempt ε σ (Except ε α) := fun s =>
  let (result, s) := act s
  (.ok result, s)

end SchemaJournal
