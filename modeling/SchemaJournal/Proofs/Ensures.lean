import SchemaJournal.World

/-!
# What operations ensure

`World.Ensures files P act Q E` says of an operation that leaves the files as they are: from a database with `P` it
ends with a database that has `Q` of its result, or `E` of its error. There is one rule for each way to build an
operation; the rule of a sequence (`Ensures.bind`) passes one condition on errors to both parts, so that a proof names
only what holds between them.
-/

namespace SchemaJournal

/-! ## Running attempts -/

namespace Attempt

variable {ε σ α β : Type}

/-- A sequence goes on only after a result. -/
theorem bind_run (x : Attempt ε σ α) (f : α → Attempt ε σ β) (s : σ) :
    (x >>= f) s = match x s with
      | (.ok a, s') => f a s'
      | (.error e, s') => (.error e, s') := by
  show (ExceptT.bind x f) s = _
  rcases h : x s with ⟨e | a, s'⟩
  · simp [ExceptT.bind, ExceptT.mk, bind, StateT.bind, ExceptT.bindCont, h]
    rfl
  · simp [ExceptT.bind, ExceptT.mk, bind, StateT.bind, ExceptT.bindCont, h]

theorem bind_ok {x : Attempt ε σ α} {s s' : σ} {a : α} (h : x s = (.ok a, s')) (f : α → Attempt ε σ β) :
    (x >>= f) s = f a s' := by
  rw [bind_run, h]

theorem bind_error {x : Attempt ε σ α} {s s' : σ} {e : ε} (h : x s = (.error e, s')) (f : α → Attempt ε σ β) :
    (x >>= f) s = (.error e, s') := by
  rw [bind_run, h]

/-- A sequence that has a result: both parts have one. -/
theorem bind_eq_ok {x : Attempt ε σ α} {f : α → Attempt ε σ β} {s s' : σ} {b : β} (h : (x >>= f) s = (.ok b, s')) :
    ∃ a s₁, x s = (.ok a, s₁) ∧ f a s₁ = (.ok b, s') := by
  rw [bind_run] at h
  rcases hx : x s with ⟨e | a, s₁⟩
  · rw [hx] at h
    cases h
  · rw [hx] at h
    exact ⟨a, s₁, rfl, h⟩

theorem restate_eq_ok_iff {ε' : Type} {restated : ε → ε'} {x : Attempt ε σ α} {s s' : σ} {a : α} :
    x.restate restated s = (.ok a, s') ↔ x s = (.ok a, s') := by
  unfold restate
  rcases x s with ⟨e' | a', s₁⟩
  · exact ⟨nofun, nofun⟩
  · constructor <;>
      · rintro ⟨⟩
        rfl

/-- An update that has succeeded, whatever its errors are restated as. -/
theorem updating_eq_ok {ε' : Type} {restated : ε → ε'} {f : σ → Except ε σ} {s s' : σ}
    (h : (updating f).restate restated s = (.ok (), s')) : f s = .ok s' := by
  have hupdate := restate_eq_ok_iff.mp h
  unfold updating at hupdate
  cases hf : f s with
  | error e =>
    rw [hf] at hupdate
    cases hupdate
  | ok s₁ =>
    rw [hf] at hupdate
    cases hupdate
    rfl

/-- Results can be compared where errors cannot. -/
theorem eq_ok_of_toOption {x : Except ε α} {a : α} (h : x.toOption = some a) : x = .ok a := by
  cases x with
  | error e => cases h
  | ok b => exact congrArg Except.ok (Option.some.inj h)

end Attempt

/-! ## Conditions before and after -/

namespace World

variable {σ α β : Type}

/-- From the given files and a database with `P`, an operation ends with the same files, and with `Q` of its result and
the database, or with `E` of its error and the database. -/
def Ensures (files : FileTree) (P : σ → Prop) (act : Action (World σ) α) (Q : α → σ → Prop) (E : Error → σ → Prop) :
    Prop :=
  ∀ w : World σ, w.files = files → P w.database →
    (act w).2.files = files ∧
      match (act w).1 with
      | .ok a => Q a (act w).2.database
      | .error e => E e (act w).2.database

namespace Ensures

variable {files : FileTree} {P P' : σ → Prop} {Q Q' : α → σ → Prop} {E E' : Error → σ → Prop}

theorem ok {act : Action (World σ) α} (h : Ensures files P act Q E) {w w' : World σ} {a : α} (hf : w.files = files)
    (hP : P w.database) (ha : act w = (.ok a, w')) : w'.files = files ∧ Q a w'.database := by
  have := h w hf hP
  rwa [ha] at this

theorem error {act : Action (World σ) α} (h : Ensures files P act Q E) {w w' : World σ} {e : Error}
    (hf : w.files = files) (hP : P w.database) (ha : act w = (.error e, w')) :
    w'.files = files ∧ E e w'.database := by
  have := h w hf hP
  rwa [ha] at this

/-- An operation that cannot fail has a result. -/
theorem exists_ok {act : Action (World σ) α} (h : Ensures files P act Q fun _ _ => False) {w : World σ}
    (hf : w.files = files) (hP : P w.database) : ∃ a w', act w = (.ok a, w') ∧ w'.files = files ∧ Q a w'.database := by
  obtain ⟨hf', hres⟩ := h w hf hP
  rcases ha : act w with ⟨e | a, w'⟩
  · rw [ha] at hres
    exact hres.elim
  · rw [ha] at hf' hres
    exact ⟨a, w', rfl, hf', hres⟩

theorem weaken {act : Action (World σ) α} (h : Ensures files P act Q E) (hP : ∀ d, P' d → P d)
    (hQ : ∀ a d, Q a d → Q' a d) (hE : ∀ e d, E e d → E' e d) : Ensures files P' act Q' E' := by
  intro w hf hw
  obtain ⟨hf', hres⟩ := h w hf (hP _ hw)
  refine ⟨hf', ?_⟩
  cases hr : (act w).1 with
  | ok a => rw [hr] at hres; exact hQ a _ hres
  | error e => rw [hr] at hres; exact hE e _ hres

theorem mono {act : Action (World σ) α} (h : Ensures files P act Q E) (hQ : ∀ a d, Q a d → Q' a d)
    (hE : ∀ e d, E e d → E' e d) : Ensures files P act Q' E' :=
  h.weaken (fun _ hP => hP) hQ hE

theorem mono_error {act : Action (World σ) α} (h : Ensures files P act Q E) (hE : ∀ e d, E e d → E' e d) :
    Ensures files P act Q E' :=
  h.mono (fun _ _ hQ => hQ) hE

/-- A sequence: what the first part ensures is where the second one starts. -/
theorem bind {x : Action (World σ) α} {f : α → Action (World σ) β} {R : β → σ → Prop} (hx : Ensures files P x Q E)
    (hf : ∀ a, Ensures files (Q a) (f a) R E) : Ensures files P (x >>= f) R E := by
  intro w hw hP
  obtain ⟨hw', hres⟩ := hx w hw hP
  rcases h : x w with ⟨_ | a, w'⟩
  · rw [Attempt.bind_error h]
    rw [h] at hw' hres
    exact ⟨hw', hres⟩
  · rw [Attempt.bind_ok h]
    rw [h] at hw' hres
    exact hf a w' hw' hres

theorem pure {a : α} (h : ∀ d, P d → Q a d) : Ensures files P (Pure.pure a) Q E := fun _ hf hP => ⟨hf, h _ hP⟩

theorem keep {a : α} : Ensures files P (Pure.pure a) (fun _ => P) E := pure fun _ h => h

theorem throw {e : Error} (h : ∀ d, P d → E e d) : Ensures files P (throw e) Q E := fun _ hf hP => ⟨hf, h _ hP⟩

/-- A fact that does not depend on the database is assumed once. -/
theorem assume {φ : Prop} {act : Action (World σ) α} (h : φ → Ensures files P act Q E) :
    Ensures files (fun d => φ ∧ P d) act Q E := fun w hf hP => h hP.1 w hf hP.2

theorem given {φ : Prop} {act : Action (World σ) α} (hφ : ∀ d, P d → φ) (h : φ → Ensures files P act Q E) :
    Ensures files P act Q E := fun w hf hP => h (hφ _ hP) w hf hP

/-- What holds after a result and after an error holds in the end. -/
theorem either {R : σ → Prop} {act : Action (World σ) α} (h : Ensures files P act (fun _ => R) fun _ => R)
    {w : World σ} (hf : w.files = files) (hP : P w.database) : R (act w).2.database := by
  obtain ⟨-, hres⟩ := h w hf hP
  cases hr : (act w).1 with
  | ok a => rwa [hr] at hres
  | error e => rwa [hr] at hres

/-- What is known to exist before is fixed once. -/
theorem choose {ι : Type} {P : ι → σ → Prop} {act : Action (World σ) α} (h : ∀ i, Ensures files (P i) act Q E) :
    Ensures files (fun d => ∃ i, P i d) act Q E := fun w hf ⟨i, hP⟩ => h i w hf hP

theorem both {act : Action (World σ) α} (h : Ensures files P act Q E) (h' : Ensures files P' act Q' E') :
    Ensures files (fun d => P d ∧ P' d) act (fun a d => Q a d ∧ Q' a d) fun e d => E e d ∧ E' e d := by
  intro w hf hP
  obtain ⟨hf', hres⟩ := h w hf hP.1
  obtain ⟨-, hres'⟩ := h' w hf hP.2
  refine ⟨hf', ?_⟩
  cases hr : (act w).1 with
  | ok a => rw [hr] at hres hres'; exact ⟨hres, hres'⟩
  | error e => rw [hr] at hres hres'; exact ⟨hres, hres'⟩

theorem tell {level : Level} {message : String} : Ensures files P (tell level message) (fun _ => P) E :=
  fun _ hf hP => ⟨hf, hP⟩

theorem now : Ensures files P now (fun _ => P) E := fun _ hf hP => ⟨hf, hP⟩

/-- What ended already ends in the same way. -/
theorem ofExcept {x : Except Error α} (hQ : ∀ a, x = .ok a → ∀ d, P d → Q a d)
    (hE : ∀ e, x = .error e → ∀ d, P d → E e d) : Ensures files P (Attempt.ofExcept x) Q E := by
  intro w hf hP
  refine ⟨hf, ?_⟩
  cases x with
  | ok a => exact hQ a rfl _ hP
  | error e => exact hE e rfl _ hP

theorem readFiles {f : FileTree → Except Error α} (hQ : ∀ a, f files = .ok a → ∀ d, P d → Q a d)
    (hE : ∀ e, f files = .error e → ∀ d, P d → E e d) : Ensures files P (readFiles f) Q E := by
  intro w hf hP
  refine ⟨hf, ?_⟩
  show match f w.files with | .ok a => Q a w.database | .error e => E e w.database
  rw [hf]
  cases hx : f files with
  | ok a => exact hQ a hx _ hP
  | error e => exact hE e hx _ hP

theorem onDatabase {act : Action σ α}
    (h : ∀ d, P d → match (act d).1 with | .ok a => Q a (act d).2 | .error e => E e (act d).2) :
    Ensures files P (onDatabase act) Q E :=
  fun w hf hP => ⟨hf, h w.database hP⟩

theorem restate {f : Error → Error} {act : Action (World σ) α} (h : Ensures files P act Q fun e => E (f e)) :
    Ensures files P (act.restate f) Q E := by
  intro w hf hP
  obtain ⟨hf', hres⟩ := h w hf hP
  refine ⟨hf', ?_⟩
  show match (act w).1.mapError f with | .ok a => Q a (act w).2.database | .error e => E e (act w).2.database
  cases hr : (act w).1 with
  | ok a => rw [hr] at hres; exact hres
  | error e => rw [hr] at hres; exact hres

/-- How an attempt ended, as a result. -/
theorem outcome {R : Except Error α → σ → Prop} {act : Action (World σ) α}
    (h : Ensures files P act (fun a => R (.ok a)) fun e => R (.error e)) : Ensures files P act.outcome R E := by
  intro w hf hP
  obtain ⟨hf', hres⟩ := h w hf hP
  refine ⟨hf', ?_⟩
  show R (act w).1 (act w).2.database
  cases hr : (act w).1 with
  | ok a => rw [hr] at hres; exact hres
  | error e => rw [hr] at hres; exact hres

end Ensures

end World

end SchemaJournal
