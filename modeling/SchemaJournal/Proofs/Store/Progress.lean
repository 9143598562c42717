import SchemaJournal.Proofs.Store.Effect

/-!
# When migrations take effect

Whether a migration takes effect depends on the names of the tables and on the ids of the records only
(`not_fails_up`, `not_fails_down`). So contents that agree up to the moments of their records (`Contents.Alike`) are
changed alike (`Replays.alike`), and what takes effect on the one of them takes effect on the other
(`Takes.not_fails_alike`).
-/

namespace SchemaJournal

open Database

/-! ## What a record says of its migration -/

/-- What a record says of its migration: all but the moment when it was applied. -/
def Database.Record.facts (r : Record) : String × String × Int64 := (r.id, r.name, r.timestamp)

/-- What the record of a migration will say. -/
def Migration.facts (m : Migration) : String × String × Int64 := (m.id, m.name, m.timestamp)

theorem Database.Record.map_id_facts (records : List Record) :
    (records.map Record.facts).map (·.1) = records.map (·.id) := by
  simp [Function.comp_def, Record.facts]

theorem Migration.map_id_facts (migrations : List Migration) :
    (migrations.map Migration.facts).map (·.1) = migrations.map (·.id) := by
  simp [Function.comp_def, facts]

namespace Database

/-- Contents that agree up to the moments of their records. -/
structure Contents.Alike (k k' : Contents) : Prop where
  facts : k.records.map Record.facts = k'.records.map Record.facts
  tables : k.tables = k'.tables
  executed : k.executed = k'.executed
  commits : k.commits = k'.commits

theorem Contents.Alike.refl (k : Contents) : k.Alike k := ⟨rfl, rfl, rfl, rfl⟩

theorem Contents.Alike.ids {k k' : Contents} (h : k.Alike k') : k.records.map (·.id) = k'.records.map (·.id) := by
  rw [← Record.map_id_facts, h.facts, Record.map_id_facts]

namespace Store

variable {j : Journal} {m : Migration} {migrations migrations' : List Migration} {script : List Prepared}
  {k k' k₁ k₁' : Contents} {tables : List String} {e : Error}

/-! ## Scripts that cannot fail -/

/-- A script fails only if its statements do. -/
theorem applyAll_of_fails (h : Fails script k e) : ∃ s after : Store, s.contents = k ∧
    applyAll script s = (.error e, after) := by
  obtain ⟨s, s', hs, hc⟩ := h
  unfold commit at hc
  rcases ha : applyAll script s with ⟨_ | _, after⟩
  · rw [ha] at hc
    cases hc
    exact ⟨s, after, hs, ha⟩
  · rw [ha] at hc
    cases hc

/-- A script without parameters takes effect if its statements can change the tables. -/
theorem not_fails_bare {sqls : List String} (hc : changes sqls k.tables = .ok tables) :
    ¬Fails (sqls.map (·, [])) k e := by
  rintro ⟨s, s', rfl, hfails⟩
  obtain ⟨s'', hok, -⟩ := commit_bare (s := s) hc
  cases hfails.symm.trans hok

/-- A migration with a new id takes effect if its statements can change the tables. -/
theorem not_fails_up (hc : changes m.up k.tables = .ok tables) (hnew : ∀ r ∈ k.records, r.id ≠ m.id) :
    ¬Fails (j.upScript m) k e := by
  intro h
  obtain ⟨s, after, rfl, ha⟩ := applyAll_of_fails h
  have hb := applyAll_bare m.up [Tracking.insertion j.table m] s
  rw [show changes m.up s.tables = .ok tables from hc] at hb
  obtain ⟨tracking, hb⟩ := hb
  have hany : s.records.any (·.id == m.id) = false := List.any_eq_false.mpr fun r hr => by simpa using hnew r hr
  rw [Journal.upScript, hb, applyAll_insertion, hany] at ha
  cases ha

/-- A migration can be reverted if its statements can change the tables. -/
theorem not_fails_down (hc : changes m.down k.tables = .ok tables) : ¬Fails (j.downScript m) k e := by
  intro h
  obtain ⟨s, after, rfl, ha⟩ := applyAll_of_fails h
  have hb := applyAll_bare m.down [Tracking.removal j.table m.id] s
  rw [show changes m.down s.tables = .ok tables from hc] at hb
  obtain ⟨tracking, hb⟩ := hb
  rw [Journal.downScript, hb, applyAll_removal] at ha
  cases ha

/-- A script that does not fail takes effect. -/
theorem exists_takes (h : ∀ e, ¬Fails script k e) : ∃ k', Takes script k k' := by
  obtain ⟨s, rfl⟩ : ∃ s : Store, s.contents = k :=
    ⟨⟨false, k.records, k.tables, k.executed, [], k.commits, 0, 0⟩, rfl⟩
  rcases commit_cases script s with ⟨s', -, htakes, -⟩ | ⟨e, s', -, hfails, -⟩
  · exact ⟨s'.contents, htakes⟩
  · exact absurd hfails (h e)

/-! ## Several migrations -/

theorem Replays.append {scripts scripts' : List (List Prepared)} (h : Replays scripts k k')
    (h' : Replays scripts' k' k₁) : Replays (scripts ++ scripts') k k₁ := by
  induction h with
  | nil => exact h'
  | cons hs _ ih => exact .cons hs (ih h')

theorem Replays.split {scripts scripts' : List (List Prepared)} (h : Replays (scripts ++ scripts') k k₁) :
    ∃ k', Replays scripts k k' ∧ Replays scripts' k' k₁ := by
  induction scripts generalizing k with
  | nil => exact ⟨k, .nil k, h⟩
  | cons script rest ih =>
    cases h with
    | cons hs hrest =>
      obtain ⟨k', h, h'⟩ := ih hrest
      exact ⟨k', .cons hs h, h'⟩

/-- Replayed migrations have left one record each, after those that were there. -/
theorem Replays.facts (h : Replays (migrations.map j.upScript) k k') :
    k'.records.map Record.facts = k.records.map Record.facts ++ migrations.map Migration.facts := by
  obtain ⟨new, hnew, hfacts⟩ := replays_records h
  rw [hnew, List.map_append]
  exact congrArg (k.records.map Record.facts ++ ·) hfacts

theorem Replays.ids (h : Replays (migrations.map j.upScript) k k') :
    k'.records.map (·.id) = k.records.map (·.id) ++ migrations.map (·.id) := by
  rw [← Record.map_id_facts, h.facts, List.map_append, Record.map_id_facts, Migration.map_id_facts]

/-- No migration takes effect twice. -/
theorem Replays.nodup (h : Replays (migrations.map j.upScript) k k') : (migrations.map (·.id)).Nodup := by
  induction migrations generalizing k with
  | nil => exact List.nodup_nil
  | cons m rest ih =>
    cases h with
    | cons hm hrest =>
      refine List.nodup_cons.mpr ⟨fun hmem => ?_, ih hrest⟩
      obtain ⟨m', hm', hid⟩ := List.mem_map.mp hmem
      obtain ⟨before, after, rfl⟩ := List.append_of_mem hm'
      rw [List.map_append, List.map_cons] at hrest
      -- The other migration with this id finds the record of the first one.
      obtain ⟨k₁, hbefore, hafter⟩ := hrest.split
      cases hafter with
      | cons htakes _ =>
        obtain ⟨_, _, -, -, rfl⟩ := takes_up hm
        obtain ⟨_, _, -, hnew, -⟩ := takes_up htakes
        have hids := hbefore.ids
        have hmem : m.id ∈ k₁.records.map (·.id) := by
          rw [hids]
          simp
        obtain ⟨r, hr, hrid⟩ := List.mem_map.mp hmem
        exact hnew r hr (hrid.trans hid.symm)

/-- Contents that are alike are changed alike. -/
theorem Replays.alike (h : Replays (migrations.map j.upScript) k k') (h₁ : Replays (migrations.map j.upScript) k₁ k₁')
    (ha : k.Alike k₁) : k'.Alike k₁' := by
  induction migrations generalizing k k₁ with
  | nil =>
    cases h
    cases h₁
    exact ha
  | cons m rest ih =>
    cases h with
    | cons hm hrest =>
      cases h₁ with
      | cons hm₁ hrest₁ =>
        obtain ⟨tables, moment, ht, -, rfl⟩ := takes_up hm
        obtain ⟨tables₁, moment₁, ht₁, -, rfl⟩ := takes_up hm₁
        rw [← ha.tables, ht] at ht₁
        cases ht₁
        refine ih hrest hrest₁ ⟨?_, rfl, ?_, ?_⟩
        · rw [List.map_append, List.map_append, ha.facts]
          rfl
        · exact congrArg (· ++ m.up.filter isListed) ha.executed
        · exact congrArg (· + 1) ha.commits

/-- A migration that takes effect on some contents does not fail on contents like them. -/
theorem Takes.not_fails_alike (h : Takes (j.upScript m) k k') (ha : k.Alike k₁) : ¬Fails (j.upScript m) k₁ e := by
  obtain ⟨tables, moment, ht, hnew, -⟩ := takes_up h
  rw [ha.tables] at ht
  refine not_fails_up ht fun r hr hid => ?_
  have hmem : m.id ∈ k.records.map (·.id) := by
    rw [ha.ids, ← hid]
    exact List.mem_map_of_mem hr
  obtain ⟨r', hr', hid'⟩ := List.mem_map.mp hmem
  exact hnew r' hr' hid'

/-- Migrations that take effect on some contents take effect on contents like them. -/
theorem Replays.transfer (h : Replays (migrations.map j.upScript) k k') (ha : k.Alike k₁) :
    ∃ k₁', Replays (migrations.map j.upScript) k₁ k₁' := by
  induction migrations generalizing k k₁ with
  | nil => exact ⟨k₁, .nil k₁⟩
  | cons m rest ih =>
    cases h with
    | cons hm hrest =>
      obtain ⟨k₂, hm₁⟩ := exists_takes fun e => hm.not_fails_alike (e := e) ha
      have hsingle : Replays ([m].map j.upScript) k _ := .cons hm (.nil _)
      have ha' : Contents.Alike _ k₂ := hsingle.alike (.cons hm₁ (.nil _)) ha
      obtain ⟨k₁', hrest₁⟩ := ih hrest ha'
      exact ⟨k₁', .cons hm₁ hrest₁⟩

theorem changes_append (sqls sqls' tables : List String) :
    changes (sqls ++ sqls') tables = (changes sqls tables).bind (changes sqls') := by
  induction sqls generalizing tables with
  | nil => rfl
  | cons sql rest ih =>
    rw [List.cons_append, changes, changes]
    cases change sql tables with
    | error e => rfl
    | ok tables' => exact ih tables'

/-- Migrations with new ids take effect if all their statements together can change the tables. -/
theorem exists_replays (hc : changes (migrations.flatMap (·.up)) k.tables = .ok tables)
    (hd : (migrations.map (·.id)).Nodup) (hnew : ∀ m ∈ migrations, ∀ r ∈ k.records, r.id ≠ m.id) :
    ∃ k', Replays (migrations.map j.upScript) k k' ∧ k'.tables = tables := by
  induction migrations generalizing k with
  | nil =>
    cases hc
    exact ⟨k, .nil k, rfl⟩
  | cons m rest ih =>
    rw [List.flatMap_cons, changes_append] at hc
    obtain ⟨hm, hd⟩ := List.nodup_cons.mp hd
    cases hup : changes m.up k.tables with
    | error e =>
      rw [hup] at hc
      cases hc
    | ok tables' =>
      obtain ⟨k₁, htakes⟩ := exists_takes fun e => not_fails_up (e := e) (j := j) hup (hnew m List.mem_cons_self)
      obtain ⟨tables₁, moment, hup', -, rfl⟩ := takes_up htakes
      cases hup.symm.trans hup'
      rw [hup] at hc
      have hnew' : ∀ u ∈ rest, ∀ r ∈ k.records ++ [⟨m.id, m.name, m.timestamp, moment⟩], r.id ≠ u.id := by
        intro u hu r hr
        rcases List.mem_append.mp hr with hr | hr
        · exact hnew u (List.mem_cons_of_mem _ hu) r hr
        · rw [List.mem_singleton.mp hr]
          exact fun hid => hm (List.mem_map.mpr ⟨u, hu, hid.symm⟩)
      obtain ⟨k', hreplay, htables⟩ :=
        ih (k := ⟨k.records ++ [⟨m.id, m.name, m.timestamp, moment⟩], tables', _, _⟩) hc hd hnew'
      exact ⟨k', .cons htakes hreplay, htables⟩

end Store

end Database

end SchemaJournal
