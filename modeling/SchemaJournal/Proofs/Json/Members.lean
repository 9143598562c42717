import Mathlib.Data.List.Perm.Basic
import Mathlib.Logic.Function.Basic
import Mathlib.Logic.Relation
import SchemaJournal.Json.Reader

/-!
# Members of objects

A record is read from the members of an object, which are gone through in order. But each field is read on its own from
the values that the members give to its name (`valuesOf`, `Fills`), so the reading of a whole object can be said field
by field (`IsRecord`, `IsRecord.foldMembers_iff`). What is said of the values is the same for objects that differ in
wording only (`Rewording`): in the order of their members, in members that no field has a use for, in members that mean
the same as none (`Rewording.means_iff`).
-/

namespace SchemaJournal.Json

/-- The members of an object that is closed after them. -/
def Members.ofList : List (Spelling × Outline) → Members
  | [] => .closed
  | (key, value) :: rest => .member key value (ofList rest)

/-- A text is an object with these members, and nothing else. -/
def IsObject (text : String) (members : List (Spelling × Outline)) : Prop :=
  Outline.ofTokens (Token.ofChars text.toList) = (.object (.ofList members), [])

/-- The values that members give to a name, in order. Keys are compared by what they spell. -/
def valuesOf (members : List (Spelling × Outline)) (name : String) : List Outline :=
  members.filterMap fun m => if m.1.string? = some name then some m.2 else none

/-- A record with these fields can be read over a member: it is a field, or it can be skipped. -/
def Passes (fields : List String) (member : Spelling × Outline) : Prop :=
  ∃ name, member.1.string? = some name ∧ (name ∈ fields ∨ member.2.isWhole = true)

variable {α β δ : Type} {read : Outline → Except Problem α} {x y z : Option α} {key : Spelling} {name : String}
  {value value' : Outline} {before after members members' : List (Spelling × Outline)} {fields : List String}

/-! ## Results -/

theorem bind_eq_ok_iff {e : Except Problem α} {f : α → Except Problem β} {b : β} :
    (e >>= f) = .ok b ↔ ∃ a, e = .ok a ∧ f a = .ok b := by
  cases e with
  | error problem => exact ⟨nofun, nofun⟩
  | ok a =>
    refine ⟨fun h => ⟨a, rfl, h⟩, ?_⟩
    rintro ⟨_, ⟨⟩, h⟩
    exact h

theorem readSpelled_eq_ok_iff : readSpelled key = .ok name ↔ key.string? = some name := by
  unfold readSpelled
  cases key.string? with
  | none => exact ⟨nofun, nofun⟩
  | some s => exact ⟨fun h => congrArg some (Except.ok.inj h), fun h => congrArg Except.ok (Option.some.inj h)⟩

/-! ## One field -/

/-- What becomes of a field for which some values are read: it stays as it is without any, and it takes the only value
if it was not read before. A second value is refused. -/
inductive Fills (read : Outline → Except Problem α) : Option α → List Outline → Option α → Prop
  | keep (x : Option α) : Fills read x [] x
  | set {value : Outline} {a : α} (h : read value = .ok a) : Fills read none [value] (some a)

theorem fills_nil_iff : Fills read x [] y ↔ x = y := by
  constructor
  · rintro ⟨⟩
    rfl
  · rintro rfl
    exact .keep x

theorem fills_singleton_iff : Fills read x [value] y ↔ x = none ∧ ∃ a, read value = .ok a ∧ y = some a := by
  constructor
  · rintro ⟨⟩
    next h => exact ⟨rfl, _, h, rfl⟩
  · rintro ⟨rfl, a, h, rfl⟩
    exact .set h

theorem Fills.length_le {values : List Outline} (h : Fills read x values y) : values.length ≤ 1 := by
  cases h with
  | keep => exact Nat.zero_le 1
  | set => exact Nat.le_refl 1

/-- What fills a field can be read. -/
theorem Fills.read_of_mem {values : List Outline} (h : Fills read x values y) (hmem : value ∈ values) :
    ∃ a, read value = .ok a := by
  cases h with
  | keep => cases hmem
  | set h =>
    rw [List.mem_singleton.mp hmem]
    exact ⟨_, h⟩

/-- Values are read one after the other. -/
theorem fills_append_iff {values others : List Outline} :
    Fills read x (values ++ others) z ↔ ∃ y, Fills read x values y ∧ Fills read y others z := by
  constructor
  · intro h
    cases values with
    | nil => exact ⟨x, .keep x, h⟩
    | cons value rest =>
      have hnone : rest ++ others = [] := by simpa using h.length_le
      obtain ⟨rfl, rfl⟩ := List.append_eq_nil_iff.mp hnone
      exact ⟨z, h, .keep z⟩
  · rintro ⟨y, hvalues, hothers⟩
    cases hvalues with
    | keep => exact hothers
    | set h =>
      cases hothers with
      | keep => exact .set h

/-- The order of the values means nothing. -/
theorem Fills.perm {values others : List Outline} (h : Fills read x values y) (hperm : values.Perm others) :
    Fills read x others y := by
  cases h with
  | keep =>
    rw [List.nil_perm.mp hperm]
    exact .keep x
  | set h =>
    rw [← List.singleton_perm.mp hperm]
    exact .set h

/-- A value can be replaced by one that is read alike. -/
theorem fills_congr {values others : List Outline} (h : ∀ a, read value = .ok a ↔ read value' = .ok a) :
    Fills read x (values ++ value :: others) y ↔ Fills read x (values ++ value' :: others) y := by
  have hone : ∀ {x y}, Fills read x [value] y ↔ Fills read x [value'] y := by
    intro x y
    simp only [fills_singleton_iff, h]
  rw [← List.singleton_append, ← List.singleton_append (l := others) (x := value')]
  simp only [fills_append_iff, hone]

theorem readField_eq_ok_iff : readField name x (read value) = .ok y ↔ Fills read x [value] y := by
  rw [fills_singleton_iff]
  cases x with
  | some a => exact ⟨nofun, nofun⟩
  | none =>
    show (do return some (← read value)) = Except.ok y ↔ _
    rw [bind_eq_ok_iff]
    constructor
    · rintro ⟨a, ha, ⟨⟩⟩
      exact ⟨rfl, a, ha, rfl⟩
    · rintro ⟨-, a, ha, rfl⟩
      exact ⟨a, ha, rfl⟩

/-- Reading a field changes its part of a draft. -/
theorem readField_bind_eq_ok_iff {set : Option α → δ} {d : δ} :
    (do return set (← readField name x (read value))) = Except.ok d ↔ ∃ y, Fills read x [value] y ∧ set y = d := by
  rw [bind_eq_ok_iff]
  simp only [readField_eq_ok_iff]
  exact exists_congr fun y => and_congr_right fun _ => ⟨Except.ok.inj, congrArg Except.ok⟩

/-- Skipping a member changes nothing. -/
theorem skip_bind_eq_ok_iff {d d' : δ} :
    (do value.skip; return d) = (.ok d' : Except Problem δ) ↔ d = d' ∧ value.isWhole = true := by
  unfold Outline.skip
  by_cases h : value.isWhole = true
  · rw [if_pos h, and_iff_left h]
    exact ⟨Except.ok.inj, congrArg Except.ok⟩
  · rw [if_neg h]
    exact ⟨nofun, fun hboth => absurd hboth.2 h⟩

/-- What a flag is at when some values are read for it. -/
def FillsFlag (limit : Nat) (values : List Outline) (b : Bool) : Prop :=
  ∃ flag, Fills (readBool limit) none values flag ∧ flag.getD false = b

theorem FillsFlag.perm {limit : Nat} {values others : List Outline} {b : Bool} (h : FillsFlag limit values b)
    (hperm : values.Perm others) : FillsFlag limit others b :=
  h.imp fun _ => And.imp_left fun hflag => hflag.perm hperm

/-- A flag that is written as not set is like a flag that is not written. -/
theorem fillsFlag_false_iff {limit : Nat} {b : Bool} : FillsFlag limit [.bool false] b ↔ FillsFlag limit [] b := by
  simp [FillsFlag, fills_singleton_iff, fills_nil_iff, readBool]

/-- What an option is when some values are read for it. -/
def FillsOption (read : Reader α) (limit : Nat) (values : List Outline) (x : Option α) : Prop :=
  ∃ option, Fills (readOptional read limit) none values option ∧ option.join = x

theorem FillsOption.perm {read : Reader α} {limit : Nat} {values others : List Outline}
    (h : FillsOption read limit values x) (hperm : values.Perm others) : FillsOption read limit others x :=
  h.imp fun _ => And.imp_left fun hoption => hoption.perm hperm

/-- An option that is written as null is like an option that is not written. -/
theorem fillsOption_null_iff {read : Reader α} {limit : Nat} :
    FillsOption read limit [.null] x ↔ FillsOption read limit [] x := by
  simp [FillsOption, fills_singleton_iff, fills_nil_iff, readOptional]

theorem readOptional_object_eq_ok_iff {read : Reader α} {limit : Nat} {object : Members} :
    readOptional read limit (.object object) = .ok x ↔ ∃ a, read limit (.object object) = .ok a ∧ x = some a := by
  show some <$> read limit (.object object) = .ok x ↔ _
  cases read limit (.object object) with
  | error problem => exact ⟨nofun, nofun⟩
  | ok a =>
    constructor
    · rintro ⟨⟩
      exact ⟨a, rfl, rfl⟩
    · rintro ⟨_, ⟨⟩, rfl⟩
      rfl

theorem required_eq_ok_iff {a : α} : required name x = .ok a ↔ x = some a := by
  cases x with
  | none => exact ⟨nofun, nofun⟩
  | some b => exact ⟨fun h => congrArg some (Except.ok.inj h), fun h => congrArg Except.ok (Option.some.inj h)⟩

/-! ## Whole records -/

/-- What a single member gives to a name. -/
def given (name : String) (value : Outline) (field : String) : List Outline := if field = name then [value] else []

theorem given_of_ne {field : String} (h : name ≠ field) (value : Outline) : given name value field = [] :=
  if_neg h.symm

theorem valuesOf_cons (hname : key.string? = some name) (value : Outline) (rest : List (Spelling × Outline))
    (field : String) : valuesOf ((key, value) :: rest) field = given name value field ++ valuesOf rest field := by
  rw [valuesOf, List.filterMap_cons, hname, given]
  by_cases h : field = name
  · rw [if_pos h, if_pos (congrArg some h.symm)]
    rfl
  · rw [if_neg h, if_neg fun e => h (Option.some.inj e).symm]
    rfl

theorem foldMembers_cons_eq_ok_iff {step : δ → String → Outline → Except Problem δ} {d d' : δ} {tail : Members} :
    foldMembers step d (.member key value tail) = .ok d' ↔
      ∃ name d₁, key.string? = some name ∧ step d name value = .ok d₁ ∧ foldMembers step d₁ tail = .ok d' := by
  rw [foldMembers, bind_eq_ok_iff]
  simp only [readSpelled_eq_ok_iff, bind_eq_ok_iff]
  exact ⟨fun ⟨name, hname, d₁, h⟩ => ⟨name, d₁, hname, h⟩, fun ⟨name, d₁, hname, h⟩ => ⟨name, hname, d₁, h⟩⟩

/-- A way to read the members of an object one by one, said by the values that they give to names. -/
structure IsRecord (fields : List String) (step : δ → String → Outline → Except Problem δ)
    (Reads : δ → (String → List Outline) → δ → Prop) : Prop where
  none : ∀ {d d'}, Reads d (fun _ => []) d' ↔ d = d'
  append : ∀ {d values others d'}, Reads d (fun name => values name ++ others name) d' ↔
    ∃ d₁, Reads d values d₁ ∧ Reads d₁ others d'
  step : ∀ {d name value d'}, step d name value = .ok d' ↔
    Reads d (given name value) d' ∧ (name ∈ fields ∨ value.isWhole = true)

/-- All members are read if their values are and if none of them is an obstacle. -/
theorem IsRecord.foldMembers_iff {step : δ → String → Outline → Except Problem δ}
    {Reads : δ → (String → List Outline) → δ → Prop} (h : IsRecord fields step Reads) {d d' : δ} :
    foldMembers step d (.ofList members) = .ok d' ↔ Reads d (valuesOf members) d' ∧ ∀ m ∈ members, Passes fields m := by
  induction members generalizing d with
  | nil =>
    have hvalues : valuesOf [] = fun _ => [] := rfl
    rw [hvalues, h.none]
    show Except.ok d = .ok d' ↔ _
    simp
  | cons member rest ih =>
    obtain ⟨key, value⟩ := member
    rw [Members.ofList, foldMembers_cons_eq_ok_iff, List.forall_mem_cons]
    simp only [ih, h.step]
    constructor
    · rintro ⟨name, d₁, hname, ⟨hvalue, hpasses⟩, hrest, hall⟩
      rw [funext (valuesOf_cons hname value rest), h.append]
      exact ⟨⟨d₁, hvalue, hrest⟩, ⟨name, hname, hpasses⟩, hall⟩
    · rintro ⟨hreads, ⟨name, hname, hpasses⟩, hall⟩
      rw [funext (valuesOf_cons hname value rest), h.append] at hreads
      obtain ⟨d₁, hvalue, hrest⟩ := hreads
      exact ⟨name, d₁, hname, ⟨hvalue, hpasses⟩, hrest, hall⟩

/-! ## Wording -/

/-- How the members of an object can be worded in another way. A record has some `fields`, an `omissible` value of a
field means the same as none, and `inside` tells which values of a field mean the same. -/
inductive Rewording (fields : List String) (omissible : String → Outline → Prop)
    (inside : String → Outline → Outline → Prop) :
    List (Spelling × Outline) → List (Spelling × Outline) → Prop
  | order {members members' : List (Spelling × Outline)} (h : members.Perm members') :
    Rewording fields omissible inside members members'
  /-- A member that is no field, with any JSON value. -/
  | unknown {before after : List (Spelling × Outline)} {key : Spelling} {name : String} {value : Outline}
    (hname : key.string? = some name) (hunknown : name ∉ fields) (hvalue : value.isWhole = true) :
    Rewording fields omissible inside (before ++ after) (before ++ (key, value) :: after)
  | omission {before after : List (Spelling × Outline)} {key : Spelling} {name : String} {value : Outline}
    (hname : key.string? = some name) (habsent : valuesOf (before ++ after) name = []) (h : omissible name value) :
    Rewording fields omissible inside (before ++ after) (before ++ (key, value) :: after)
  | value {before after : List (Spelling × Outline)} {key : Spelling} {name : String} {value value' : Outline}
    (hname : key.string? = some name) (h : inside name value value') :
    Rewording fields omissible inside (before ++ (key, value) :: after) (before ++ (key, value') :: after)

theorem valuesOf_append (before after : List (Spelling × Outline)) (field : String) :
    valuesOf (before ++ after) field = valuesOf before field ++ valuesOf after field := List.filterMap_append

theorem valuesOf_insert (hname : key.string? = some name) (value : Outline)
    (before after : List (Spelling × Outline)) :
    valuesOf (before ++ (key, value) :: after) = Function.update (valuesOf (before ++ after)) name
      (valuesOf before name ++ value :: valuesOf after name) := by
  funext field
  rw [valuesOf_append, valuesOf_cons hname, given]
  by_cases h : field = name
  · subst h
    rw [Function.update_self, if_pos rfl]
    rfl
  · rw [Function.update_of_ne h, if_neg h, valuesOf_append]
    rfl

theorem passes_iff_of_name (hname : key.string? = some name) (value : Outline) :
    Passes fields (key, value) ↔ name ∈ fields ∨ value.isWhole = true := by
  unfold Passes
  simp [hname]

/-- What is said of the values that members give to fields, whichever way these are worded. -/
structure IsMeaning (fields : List String) (omissible : String → Outline → Prop)
    (inside : String → Outline → Outline → Prop) (Means : (String → List Outline) → Prop) : Prop where
  order : ∀ {values others : String → List Outline}, (∀ field ∈ fields, (values field).Perm (others field)) →
    Means values → Means others
  omission : ∀ {values : String → List Outline} {name value}, omissible name value → values name = [] → name ∈ fields ∧
    (Means (Function.update values name [value]) ↔ Means values)
  value : ∀ (values : String → List Outline) {name value value'} {before after : List Outline},
    inside name value value' → name ∈ fields ∧ (Means (Function.update values name (before ++ value :: after)) ↔
      Means (Function.update values name (before ++ value' :: after)))

variable {omissible : String → Outline → Prop} {inside : String → Outline → Outline → Prop}
  {Means : (String → List Outline) → Prop}

/-- A wording has no influence on what is said of the values, nor on whether a member is an obstacle. -/
theorem Rewording.means_iff (hmeaning : IsMeaning fields omissible inside Means)
    (h : Rewording fields omissible inside members members') :
    (Means (valuesOf members) ∧ ∀ m ∈ members, Passes fields m) ↔
      Means (valuesOf members') ∧ ∀ m ∈ members', Passes fields m := by
  cases h with
  | order hperm =>
    have hvalues : ∀ field, (valuesOf members field).Perm (valuesOf members' field) := fun _ => hperm.filterMap _
    refine and_congr ⟨hmeaning.order fun field _ => hvalues field, hmeaning.order fun field _ => ?_⟩ ?_
    · exact (hvalues field).symm
    · exact forall_congr' fun m => imp_congr_left hperm.mem_iff
  | @unknown before after key name value hname hunknown hvalue =>
    have hsame : ∀ field ∈ fields,
        valuesOf (before ++ (key, value) :: after) field = valuesOf (before ++ after) field := by
      intro field hfield
      rw [valuesOf_insert hname, Function.update_of_ne]
      rintro rfl
      exact hunknown hfield
    refine and_congr ⟨hmeaning.order fun field hfield => ?_, hmeaning.order fun field hfield => ?_⟩ ?_
    · rw [hsame field hfield]
    · rw [hsame field hfield]
    · simp [passes_iff_of_name hname, hvalue, or_imp, forall_and]
  | @omission before after key name value hname habsent homissible =>
    obtain ⟨hfield, hiff⟩ := hmeaning.omission homissible habsent
    have hempty : valuesOf before name = [] ∧ valuesOf after name = [] := by
      rwa [valuesOf_append, List.append_eq_nil_iff] at habsent
    refine and_congr ?_ ?_
    · rw [valuesOf_insert hname, hempty.1, hempty.2]
      exact hiff.symm
    · simp [passes_iff_of_name hname, hfield, or_imp, forall_and]
  | @value before after key name value value' hname hinside =>
    obtain ⟨hfield, hiff⟩ := hmeaning.value (valuesOf (before ++ after)) hinside
    refine and_congr ?_ ?_
    · rw [valuesOf_insert hname, valuesOf_insert hname]
      exact hiff
    · simp [passes_iff_of_name hname, hfield, or_imp, forall_and]

/-- Members that differ in wording only. -/
def Alike (fields : List String) (omissible : String → Outline → Prop) (inside : String → Outline → Outline → Prop) :
    List (Spelling × Outline) → List (Spelling × Outline) → Prop :=
  Relation.EqvGen (Rewording fields omissible inside)

theorem Alike.means_iff (hmeaning : IsMeaning fields omissible inside Means)
    (h : Alike fields omissible inside members members') :
    (Means (valuesOf members) ∧ ∀ m ∈ members, Passes fields m) ↔
      Means (valuesOf members') ∧ ∀ m ∈ members', Passes fields m := by
  induction h with
  | rel _ _ h => exact h.means_iff hmeaning
  | refl => exact Iff.rfl
  | symm _ _ _ ih => exact ih.symm
  | trans _ _ _ _ _ ih ih' => exact ih.trans ih'

/-! ## Texts -/

theorem readDocument_of_isObject {text : String} (read : Reader α) (h : IsObject text members) :
    readDocument read text = read nestingLimit (.object (.ofList members)) := by
  unfold readDocument
  rw [h]
  show (read nestingLimit (.object (.ofList members))).bind _ = _
  cases read nestingLimit (.object (.ofList members)) with
  | error problem => rfl
  | ok a => rfl

end SchemaJournal.Json
