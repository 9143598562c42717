import SchemaJournal.Proofs.Json.Document

/-!
# Values that a reader keeps

A reader refuses containers that are nested too deep, and of several members with one key it keeps one. So the values
that are read as they were written are those that fit: what fits is read back (`Value.read_outline`), and what is read
fits (`Value.gives_read`). The only other condition is that the doubles of a value are legible
(`Value.isLegible_of_doubles`).
-/

namespace SchemaJournal.Json

/-! ## What readers give -/

section Gives

variable {ε α β : Type} {P : α → Prop} {Q : β → Prop}

/-- A reading that gives nothing but values with `P`. -/
def Gives (P : α → Prop) (x : Except ε α) : Prop := ∀ a, x = .ok a → P a

theorem Gives.ok {a : α} (h : P a) : Gives P (.ok a : Except ε α) := by
  rintro _ ⟨⟩
  exact h

theorem Gives.error (e : ε) : Gives P (.error e : Except ε α) := nofun

theorem Gives.bind {x : Except ε α} {f : α → Except ε β} (hx : Gives P x) (hf : ∀ a, P a → Gives Q (f a)) :
    Gives Q (x >>= f) := by
  cases x with
  | error e => exact Gives.error e
  | ok a => exact hf a (hx a rfl)

theorem Gives.map {x : Except ε α} {f : α → β} (hx : Gives P x) (hf : ∀ a, P a → Q (f a)) : Gives Q (f <$> x) := by
  cases x with
  | error e => exact Gives.error e
  | ok a => exact Gives.ok (hf a (hx a rfl))

theorem Gives.trivial (x : Except ε α) : Gives (fun _ => True) x := fun _ _ => True.intro

end Gives

/-! ## Distinct keys -/

section Keys

variable {β : Type} {done rest : List (String × β)} {key : String} {b : β}

theorem nodup_keys_concat (h : (done.map (·.1)).Nodup) (hnew : ¬done.any (·.1 == key) = true) :
    ((done ++ [(key, b)]).map (·.1)).Nodup := by
  simp only [List.any_eq_true, beq_iff_eq, not_exists, not_and] at hnew
  rw [List.map_append, List.nodup_append]
  refine ⟨h, by simp, ?_⟩
  rintro k hk k' hk' rfl
  obtain ⟨m, hm, hmk⟩ := List.mem_map.mp hk
  exact hnew m hm (hmk.trans (List.mem_singleton.mp hk'))

theorem not_any_of_nodup_keys (h : ((done ++ (key, b) :: rest).map (·.1)).Nodup) :
    ¬done.any (·.1 == key) = true := by
  rw [List.map_append] at h
  simp only [List.any_eq_true, beq_iff_eq, not_exists, not_and]
  intro m hm hkey
  exact (List.nodup_append.mp h).2.2 m.1 (List.mem_map_of_mem hm) key (by simp) hkey

end Keys

namespace Value

/-! ## Values that fit -/

mutual

/-- The containers of a value are nested at most so deep, and no object has two members with one key. -/
def Fits : Value → Nat → Prop
  | .array _, 0 => False
  | .array items, limit + 1 => ItemsFit items limit
  | .object _, 0 => False
  | .object members, limit + 1 => (members.map (·.1)).Nodup ∧ MembersFit members limit
  | _, _ => True

def ItemsFit : List Value → Nat → Prop
  | [], _ => True
  | item :: rest, limit => item.Fits limit ∧ ItemsFit rest limit

def MembersFit : List (String × Value) → Nat → Prop
  | [], _ => True
  | (_, value) :: rest, limit => value.Fits limit ∧ MembersFit rest limit

end

variable {limit : Nat}

theorem itemsFit_iff {items : List Value} : ItemsFit items limit ↔ ∀ item ∈ items, item.Fits limit := by
  induction items with
  | nil => simp [ItemsFit]
  | cons item rest ih => rw [ItemsFit, ih, List.forall_mem_cons]

theorem membersFit_iff {members : List (String × Value)} :
    MembersFit members limit ↔ ∀ m ∈ members, m.2.Fits limit := by
  induction members with
  | nil => simp [MembersFit]
  | cons m rest ih => rw [MembersFit, ih, List.forall_mem_cons]

theorem fits_object_iff {members : List (String × Value)} : (Value.object members).Fits (limit + 1) ↔
    (members.map (·.1)).Nodup ∧ ∀ m ∈ members, m.2.Fits limit := by
  rw [Fits, membersFit_iff]

/-! ## What fits is read back -/

mutual

/-- A value that fits is read from its outline. -/
theorem read_outline : ∀ (v : Value) (limit : Nat), v.Fits limit → v.IsLegible → read limit v.outline = .ok v
  | .null, _, _, _ => by rw [outline, read]
  | .bool _, _, _, _ => by rw [outline, read]
  | .number n, _, _, hv => by rw [outline, read, Number.IsLegible.number hv]
  | .string s, _, _, _ => by
    rw [outline, read, readSpelled_written]
    rfl
  | .array items, limit + 1, h, hv => by
    rw [outline, read, readItems_outline items limit h hv]
    rfl
  | .object members, limit + 1, h, hv => by
    rw [outline, read, readMembers_outline members limit [] h.1 h.2 hv]
    rfl

theorem readItems_outline : ∀ (items : List Value) (limit : Nat), ItemsFit items limit → AreLegible items →
    readItems limit (itemsOutline items) = .ok items
  | [], _, _, _ => rfl
  | item :: rest, limit, h, hv => by
    rw [itemsOutline, readItems, read_outline item limit h.1 hv.1, readItems_outline rest limit h.2 hv.2]
    rfl

theorem readMembers_outline : ∀ (members : List (String × Value)) (limit : Nat) (done : List (String × Value)),
    ((done ++ members).map (·.1)).Nodup → MembersFit members limit → MembersLegible members →
    readMembers limit done (membersOutline members) = .ok (done ++ members)
  | [], _, done, _, _, _ => by rw [membersOutline, readMembers, List.append_nil]
  | (key, value) :: rest, limit, done, hnodup, h, hv => by
    have hnew : setMember done key value = done ++ [(key, value)] := if_neg (not_any_of_nodup_keys hnodup)
    have hrest := readMembers_outline rest limit (done ++ [(key, value)]) (by simpa using hnodup) h.2 hv.2
    rw [membersOutline, readMembers, readSpelled_written, read_outline value limit h.1 hv.1]
    show readMembers limit (setMember done key value) (membersOutline rest) = _
    rw [hnew, hrest, List.append_assoc]
    rfl

end

/-! ## What is read fits -/

theorem mem_setMember {members : List (String × Value)} {key : String} {value : Value} {m : String × Value}
    (h : m ∈ setMember members key value) : m ∈ members ∨ m = (key, value) := by
  unfold setMember at h
  split at h
  · obtain ⟨m', hm', hm⟩ := List.mem_map.mp h
    split at hm
    · exact .inr hm.symm
    · exact .inl (hm ▸ hm')
  · simpa using h

/-- Setting a member repeats no key. -/
theorem nodup_setMember {members : List (String × Value)} (h : (members.map (·.1)).Nodup) (key : String)
    (value : Value) : ((setMember members key value).map (·.1)).Nodup := by
  unfold setMember
  split
  · have hkeys : (members.map fun m => if m.1 == key then (key, value) else m).map (·.1) = members.map (·.1) := by
      rw [List.map_map]
      refine List.map_congr_left fun m _ => ?_
      by_cases hm : m.1 = key <;> simp [hm]
    rwa [hkeys]
  next hnew => exact nodup_keys_concat h hnew

mutual

/-- What is read fits. -/
theorem gives_read : ∀ (o : Outline) (limit : Nat), Gives (·.Fits limit) (read limit o)
  | .null, _ => by
    rw [read]
    exact .ok trivial
  | .bool _, _ => by
    rw [read]
    exact .ok trivial
  | .number n, _ => by
    rw [read]
    cases n.number? with
    | none => exact .error _
    | some n => exact .ok trivial
  | .string s, _ => by
    rw [read]
    exact (Gives.trivial _).map fun _ _ => trivial
  | .array _, 0 => by
    rw [read]
    exact .error _
  | .array items, limit + 1 => by
    rw [read]
    exact (gives_readItems items limit).map fun _ h => h
  | .object _, 0 => by
    rw [read]
    exact .error _
  | .object members, limit + 1 => by
    rw [read]
    exact (gives_readMembers members limit [] List.nodup_nil trivial).map fun _ h => h
  | .broken, _ => by
    rw [read]
    exact .error _

theorem gives_readItems : ∀ (items : Items) (limit : Nat), Gives (ItemsFit · limit) (readItems limit items)
  | .closed, _ => .ok trivial
  | .cut, _ => .error _
  | .item head tail, limit => by
    rw [readItems]
    refine (gives_read head limit).bind fun _ hhead => ?_
    exact (gives_readItems tail limit).bind fun _ htail => .ok ⟨hhead, htail⟩

theorem gives_readMembers : ∀ (members : Members) (limit : Nat) (done : List (String × Value)),
    (done.map (·.1)).Nodup → MembersFit done limit →
    Gives (fun members => (members.map (·.1)).Nodup ∧ MembersFit members limit) (readMembers limit done members)
  | .closed, _, _, hnodup, hfit => .ok ⟨hnodup, hfit⟩
  | .cut, _, _, _, _ => .error _
  | .member key value tail, limit, done, hnodup, hfit => by
    rw [readMembers]
    refine (Gives.trivial _).bind fun key _ => (gives_read value limit).bind fun value hvalue => ?_
    refine gives_readMembers tail limit _ (nodup_setMember hnodup key value) (membersFit_iff.mpr fun m hm => ?_)
    rcases mem_setMember hm with hm | rfl
    · exact membersFit_iff.mp hfit m hm
    · exact hvalue

end

/-! ## Doubles -/

mutual

/-- The doubles in a value. -/
def doubles : Value → List Double
  | .number (.double d) => [d]
  | .array items => itemDoubles items
  | .object members => memberDoubles members
  | _ => []

def itemDoubles : List Value → List Double
  | [] => []
  | item :: rest => item.doubles ++ itemDoubles rest

def memberDoubles : List (String × Value) → List Double
  | [] => []
  | (_, value) :: rest => value.doubles ++ memberDoubles rest

end

mutual

/-- A value is legible if its doubles are. -/
theorem isLegible_of_doubles : ∀ v : Value, (∀ d ∈ v.doubles, (Number.double d).IsLegible) → v.IsLegible
  | .null, _ => trivial
  | .bool _, _ => trivial
  | .number (.integer value h), _ => Number.isLegible_integer value h
  | .number (.double d), h => h d (List.mem_singleton.mpr rfl)
  | .string _, _ => trivial
  | .array items, h => areLegible_of_doubles items h
  | .object members, h => membersLegible_of_doubles members h

theorem areLegible_of_doubles : ∀ items : List Value, (∀ d ∈ itemDoubles items, (Number.double d).IsLegible) →
    AreLegible items
  | [], _ => trivial
  | item :: rest, h => by
    rw [itemDoubles, List.forall_mem_append] at h
    exact ⟨isLegible_of_doubles item h.1, areLegible_of_doubles rest h.2⟩

theorem membersLegible_of_doubles : ∀ members : List (String × Value),
    (∀ d ∈ memberDoubles members, (Number.double d).IsLegible) → MembersLegible members
  | [], _ => trivial
  | (_, value) :: rest, h => by
    rw [memberDoubles, List.forall_mem_append] at h
    exact ⟨isLegible_of_doubles value h.1, membersLegible_of_doubles rest h.2⟩

end

end Value

end SchemaJournal.Json
