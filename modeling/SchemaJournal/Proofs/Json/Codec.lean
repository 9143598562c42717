import SchemaJournal.Proofs.Json.Fit

/-!
# Codecs

A way to write values of a type and a reader of what was written form a codec (`IsCodec`) if the reader gives back what
fits and gives nothing that does not fit when it is written again. So a document that was read can be written and read
again, in either form (`IsCodec.rereads`). The rules below make codecs of codecs: of lists, of named variants, and of
records from their fields.
-/

namespace SchemaJournal.Json

/-- Writing and reading fit together. -/
structure IsCodec {α : Type} (write : α → Value) (read : Reader α) : Prop where
  reads : ∀ a limit, (write a).Fits limit → (write a).IsLegible → read limit (write a).outline = .ok a
  gives : ∀ o limit, Gives (fun a => (write a).Fits limit) (read limit o)

/-- Both forms of a value are read back as the value, and to write what was read gives the same texts. -/
structure Rereads {α : Type} (write : α → Value) (read : Reader α) (a : α) : Prop where
  compact : readDocument read (write a).compact = .ok a
  pretty : readDocument read (write a).pretty = .ok a
  stable : ∀ b, readDocument read (write a).compact = .ok b ∨ readDocument read (write a).pretty = .ok b →
    (write b).compact = (write a).compact ∧ (write b).pretty = (write a).pretty

variable {α δ : Type} {write : α → Value} {read : Reader α} {P : α → Prop}

/-- What is read from the outline of its value is read from both forms. -/
theorem Rereads.of_read {a : α} (hlegible : (write a).IsLegible) (h : read nestingLimit (write a).outline = .ok a) :
    Rereads write read a := by
  have hcompact : readDocument read (write a).compact = .ok a := (readDocument_compact read hlegible).trans h
  have hpretty : readDocument read (write a).pretty = .ok a := (readDocument_pretty read hlegible).trans h
  refine ⟨hcompact, hpretty, ?_⟩
  rintro b (hb | hb)
  · cases hcompact.symm.trans hb
    exact ⟨rfl, rfl⟩
  · cases hpretty.symm.trans hb
    exact ⟨rfl, rfl⟩

/-! ## What the parts of readers give -/

theorem gives_readItems {read : Outline → Except Problem α} (h : ∀ o, Gives P (read o)) :
    ∀ items, Gives (fun xs => ∀ x ∈ xs, P x) (readItems read items)
  | .closed => .ok nofun
  | .cut => .error _
  | .item head tail =>
    (h head).bind fun _ hx => (gives_readItems h tail).bind fun _ hxs => .ok (List.forall_mem_cons.mpr ⟨hx, hxs⟩)

theorem gives_nextItem {read : Outline → Except Problem α} (h : ∀ o, Gives P (read o)) :
    ∀ items, Gives (fun r => ∀ a ∈ r.1, P a) (nextItem read items)
  | .closed => .ok nofun
  | .cut => .error _
  | .item head _ => (h head).bind fun _ ha => .ok fun _ hx => Option.some.inj hx ▸ ha

theorem gives_readOptional {limit : Nat} (h : ∀ o, Gives P (read limit o)) (o : Outline) :
    Gives (fun r => ∀ a ∈ r, P a) (readOptional read limit o) := by
  unfold readOptional
  split
  · exact .ok nofun
  · exact (h _).map fun _ ha _ hx => Option.some.inj hx ▸ ha

theorem gives_readField {read : Except Problem α} (h : Gives P read) (name : String) (slot : Option α) :
    Gives (fun r => ∀ a ∈ r, P a) (readField name slot read) := by
  cases slot with
  | some _ => exact .error _
  | none => exact h.map fun _ ha _ hx => Option.some.inj hx ▸ ha

theorem gives_required (name : String) {slot : Option α} (h : ∀ a ∈ slot, P a) : Gives P (required name slot) := by
  cases slot with
  | none => exact .error _
  | some a => exact .ok (h a rfl)

/-- What every step keeps, going through all members keeps. -/
theorem gives_foldMembers {P : δ → Prop} {step : δ → String → Outline → Except Problem δ}
    (h : ∀ d name value, P d → Gives P (step d name value)) :
    ∀ (members : Members) (d : δ), P d → Gives P (foldMembers step d members)
  | .closed, _, hd => .ok hd
  | .cut, _, _ => .error _
  | .member _ value tail, d, hd =>
    (Gives.trivial _).bind fun key _ => (h d key value hd).bind fun d' hd' => gives_foldMembers h tail d' hd'

theorem gives_readRecord {P : α → Nat → Prop} {name : String} {ofItems : Nat → Items → Except Problem α}
    {ofMembers : Nat → Members → Except Problem α}
    (hitems : ∀ limit items, Gives (P · (limit + 1)) (ofItems limit items))
    (hmembers : ∀ limit members, Gives (P · (limit + 1)) (ofMembers limit members)) :
    ∀ o limit, Gives (P · limit) (readRecord name ofItems ofMembers limit o)
  | .array items, limit + 1 => hitems limit items
  | .object members, limit + 1 => hmembers limit members
  | .array _, 0 => .error _
  | .object _, 0 => .error _
  | .null, _ => .error _
  | .bool _, _ => .error _
  | .number _, _ => .error _
  | .string _, _ => .error _
  | .broken, _ => .error _

theorem readOptional_of_ne {o : Outline} {limit : Nat} {a : α} (ho : o ≠ .null) (h : read limit o = .ok a) :
    readOptional read limit o = .ok (some a) := by
  have hread : readOptional read limit o = some <$> read limit o := by
    unfold readOptional
    split
    · exact absurd rfl ho
    · rfl
  rw [hread, h]
  rfl

/-! ## How members are gone through -/

section Members

variable {step : δ → String → Outline → Except Problem δ} {d d₁ d₂ : δ} {members members' : List (String × Value)}

/-- Going through the members of a written object leads from one draft to another. -/
def Folds (step : δ → String → Outline → Except Problem δ) (d : δ) (members : List (String × Value)) (d' : δ) : Prop :=
  foldMembers step d (Value.membersOutline members) = .ok d'

theorem Folds.nil : Folds step d [] d := rfl

theorem Folds.cons {key : String} {value : Value} (h : step d key value.outline = .ok d₁)
    (hrest : Folds step d₁ members d₂) : Folds step d ((key, value) :: members) d₂ := by
  unfold Folds
  rw [Value.membersOutline, foldMembers_written, h]
  exact hrest

theorem Folds.append (h : Folds step d members d₁) (h' : Folds step d₁ members' d₂) :
    Folds step d (members ++ members') d₂ := by
  induction members generalizing d with
  | nil =>
    cases h
    exact h'
  | cons m rest ih =>
    obtain ⟨key, value⟩ := m
    unfold Folds at h
    rw [Value.membersOutline, foldMembers_written] at h
    cases hstep : step d key value.outline with
    | error e =>
      rw [hstep] at h
      cases h
    | ok d' =>
      rw [hstep] at h
      exact .cons hstep (ih h)

/-- A member that is written if there is something to write sets its part of the draft. -/
theorem Folds.optional {β : Type} {key : String} {value : α → Value} {part : α → β} {x : Option α}
    (set : Option β → δ) (h : ∀ a ∈ x, step (set none) key (value a).outline = .ok (set (some (part a)))) :
    Folds step (set none) (x.map fun a => (key, value a)).toList (set (x.map part)) := by
  cases x with
  | none => exact .nil
  | some a => exact .cons (h a rfl) .nil

end Members

namespace IsCodec

/-! ## Documents -/

/-- What fits and is legible is read back from its document. -/
theorem rereads_of_fits (h : IsCodec write read) {a : α} (hfit : (write a).Fits nestingLimit)
    (hlegible : (write a).IsLegible) : Rereads write read a :=
  .of_read hlegible (h.reads a _ hfit hlegible)

theorem gives_readDocument (h : IsCodec write read) (text : String) :
    Gives (fun a => (write a).Fits nestingLimit) (readDocument read text) := by
  unfold readDocument
  refine (h.gives _ _).bind fun a ha => ?_
  split
  · exact .ok ha
  · exact .error _

/-- What was read from a document is read back from its own document. -/
theorem rereads (h : IsCodec write read) {text : String} {a : α} (ha : readDocument read text = .ok a)
    (hdoubles : ∀ d ∈ (write a).doubles, (Number.double d).IsLegible) : Rereads write read a :=
  h.rereads_of_fits (h.gives_readDocument text a ha) (Value.isLegible_of_doubles _ hdoubles)

/-! ## Simple shapes -/

/-- Variants with names of their own. -/
theorem variant {variants : List (String × α)} {name : α → String}
    (h : ∀ a, variants.lookup (name a) = some a) : IsCodec (fun a => .string (name a)) (readVariant variants) where
  reads a limit _ _ := by
    show (do Json.variant variants (← readSpelled (.written (name a)))) = _
    rw [readSpelled_written]
    show Json.variant variants (name a) = _
    unfold Json.variant
    rw [h a]
  gives _ _ := fun _ _ => trivial

theorem list (h : IsCodec write read) : IsCodec (fun xs => .array (xs.map write)) (readList read) where
  reads
    | xs, limit + 1, hfit, hlegible => by
      show readItems (read limit) (Value.itemsOutline (xs.map write)) = .ok xs
      replace hfit : Value.ItemsFit (xs.map write) limit := hfit
      replace hlegible : Value.AreLegible (xs.map write) := hlegible
      induction xs with
      | nil => rfl
      | cons x xs ih =>
        show (do return (← read limit (write x).outline) ::
          (← readItems (read limit) (Value.itemsOutline (xs.map write)))) = _
        rw [h.reads x limit hfit.1 hlegible.1, ih hfit.2 hlegible.2]
        rfl
  gives
    | .array items, limit + 1 => fun xs hxs => by
      have hread : Gives (fun xs => ∀ x ∈ xs, (write x).Fits limit) (readItems (read limit) items) :=
        gives_readItems (fun o => h.gives o limit) items
      refine Value.itemsFit_iff.mpr fun v hv => ?_
      obtain ⟨x, hx, rfl⟩ := List.mem_map.mp hv
      exact hread xs hxs x hx
    | .array _, 0 => .error _
    | .null, _ => .error _
    | .bool _, _ => .error _
    | .number _, _ => .error _
    | .string _, _ => .error _
    | .object _, _ => .error _
    | .broken, _ => .error _

end IsCodec

end SchemaJournal.Json
