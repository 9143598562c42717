import SchemaJournal.Proofs.Runner.Reversal

/-!
# Resuming what was interrupted

An attempt to apply what is pending may be interrupted by statements that the store refuses. Whatever the attempts
before, the contents are those after a prefix of what was pending at first (`Resumable.attempt`), and the rest of it is
still pending. So the first attempt at which nothing is refused ends where a single one would have (`up_resumes`).
-/

namespace SchemaJournal

open Database Database.Store World

/-- The same world with a store that refuses the statements with some patterns. -/
def World.refusing (failing : List String) (w : World Memory) : World Memory :=
  { w with database := { w.database with store := { w.database.store with failing } } }

/-- An attempt to apply what is pending while some statements are refused, whether it succeeds or not. -/
def Journal.attempt (j : Journal) (w : World Memory) (failing : List String) : World Memory :=
  (j.runner.up (w.refusing failing)).2

/-- The files are as they were, and some of what was to do is done. -/
structure Resumable (j : Journal) (files : FileTree) (k : Contents) (todo : List Migration) (w : World Memory) :
    Prop where
  files : w.files = files
  applied : ∃ applied rest, todo = applied ++ rest ∧ Replays (applied.map j.upScript) k w.database.store.contents

variable {j : Journal} {files : FileTree} {k k₁ : Contents} {migrations : List Migration} {w : World Memory}

/-- The rest of what was to do is what is pending now. -/
theorem Resumable.pending (h : Resumable j files k (Runner.pending k.records migrations) w)
    (hnodup : ((Runner.pending k.records migrations).map (·.id)).Nodup) : ∃ applied,
    Runner.pending k.records migrations =
      applied ++ Runner.pending w.database.store.contents.records migrations ∧
    Replays (applied.map j.upScript) k w.database.store.contents := by
  obtain ⟨-, applied, rest, htodo, hreplay⟩ := h
  have hrest : Runner.pending w.database.store.contents.records migrations = rest :=
    Runner.pending_of_recorded htodo (htodo ▸ hnodup) hreplay.ids
  exact ⟨applied, hrest.symm ▸ htodo, hreplay⟩

/-- An attempt does some more, or nothing. -/
theorem Resumable.attempt (hj : Text.IsPlain j.table) (hlist : j.list files = .ok migrations)
    (hnodup : ((Runner.pending k.records migrations).map (·.id)).Nodup)
    (h : Resumable j files k (Runner.pending k.records migrations) w) (failing : List String) :
    Resumable j files k (Runner.pending k.records migrations) (j.attempt w failing) := by
  obtain ⟨applied, htodo, hreplay⟩ := h.pending hnodup
  have hholds : Holds failing w.database.store.contents (w.refusing failing).database := ⟨rfl, rfl⟩
  rcases hrun : j.runner.up (w.refusing failing) with ⟨e | report, w'⟩
  · have hattempt : j.attempt w failing = w' := congrArg Prod.snd hrun
    rw [hattempt]
    obtain ⟨hf, ⟨-, hk⟩ | ⟨migrations', hready, before, u, after, k', hpending, hbefore, -, hk⟩⟩ :=
      (holds_up hj).error (w := w.refusing failing) h.files hholds hrun
    · exact ⟨hf, applied, _, htodo, hk.contents ▸ hreplay⟩
    · cases hlist.symm.trans hready.list
      refine ⟨hf, applied ++ before, u :: after, ?_, ?_⟩
      · rw [htodo, hpending, List.append_assoc]
      · rw [hk.contents, List.map_append]
        exact hreplay.append hbefore
  · have hattempt : j.attempt w failing = w' := congrArg Prod.snd hrun
    rw [hattempt]
    obtain ⟨hf, migrations', hready, -, k', hrest, hk⟩ := (holds_up hj).ok (w := w.refusing failing) h.files hholds hrun
    cases hlist.symm.trans hready.list
    refine ⟨hf, Runner.pending k.records migrations, [], (List.append_nil _).symm, ?_⟩
    rw [hk.contents, htodo, List.map_append]
    exact hreplay.append hrest

theorem Resumable.attempts (hj : Text.IsPlain j.table) (hlist : j.list files = .ok migrations)
    (hnodup : ((Runner.pending k.records migrations).map (·.id)).Nodup)
    (h : Resumable j files k (Runner.pending k.records migrations) w) (attempts : List (List String)) :
    Resumable j files k (Runner.pending k.records migrations) (attempts.foldl j.attempt w) := by
  induction attempts generalizing w with
  | nil => exact h
  | cons failing rest ih => exact ih (h.attempt hj hlist hnodup failing)

/-- Nothing being refused, the rest is done as if all had been done at once. -/
theorem Resumable.finish (hj : Text.IsPlain j.table) (hlist : j.list files = .ok migrations)
    (hall : Replays ((Runner.pending k.records migrations).map j.upScript) k k₁)
    (h : Resumable j files k (Runner.pending k.records migrations) w) :
    ∃ report w', j.runner.up (w.refusing []) = (.ok report, w') ∧ k₁.Alike w'.database.store.contents := by
  obtain ⟨applied, htodo, hreplay⟩ := h.pending hall.nodup
  have hsplit := hall
  rw [htodo, List.map_append] at hsplit
  obtain ⟨k₂, happlied, hrest⟩ := hsplit.split
  obtain ⟨_, hrest⟩ := hrest.transfer (happlied.alike hreplay (.refl k))
  obtain ⟨report, w', hrun, -, -, k', hrest', hk⟩ :=
    (holds_up_of_replays hj hlist hrest).exists_ok (w := w.refusing []) h.files ⟨rfl, rfl⟩
  refine ⟨report, w', hrun, ?_⟩
  have hall' : Replays ((Runner.pending k.records migrations).map j.upScript) k k' := by
    rw [htodo, List.map_append]
    exact hreplay.append hrest'
  exact hk.contents ▸ hall.alike hall' (.refl k)

/-- **Resuming what was interrupted.** If applying what is pending succeeds when nothing is refused, then after any
attempts at which statements are refused it succeeds as well. The tables, the executed statements and what the records
say of their migrations are the same as without these attempts. -/
theorem up_resumes (j : Journal) (hj : Text.IsPlain j.table) {w w₁ : World Memory} {report : UpReport}
    (hup : j.runner.up (w.refusing []) = (.ok report, w₁)) (attempts : List (List String)) :
    ∃ report' w₂, j.runner.up ((attempts.foldl j.attempt w).refusing []) = (.ok report', w₂) ∧
      w₂.database.store.tables = w₁.database.store.tables ∧
      w₂.database.store.records.map Record.facts = w₁.database.store.records.map Record.facts ∧
      w₂.database.store.executed = w₁.database.store.executed := by
  have hholds : Holds [] w.database.store.contents (w.refusing []).database := ⟨rfl, rfl⟩
  have hfiles : (w.refusing []).files = w.files := rfl
  obtain ⟨-, migrations, hready, -, k₁, hall, hk₁⟩ := (holds_up hj).ok hfiles hholds hup
  have hstart : Resumable j w.files w.database.store.contents
      (Runner.pending w.database.store.contents.records migrations) w :=
    ⟨rfl, [], _, rfl, .nil _⟩
  obtain ⟨report', w₂, hrun, halike⟩ := (hstart.attempts hj hready.list hall.nodup attempts).finish hj hready.list hall
  rw [← hk₁.contents] at halike
  exact ⟨report', w₂, hrun, halike.tables.symm, halike.facts.symm, halike.executed.symm⟩

/-- An attempt that is refused the last table, and another one that is refused its record. -/
theorem tied_resumes : ∃ report report' w₁ w₂, Text.IsPlain Journal.standard.table ∧
    Journal.standard.runner.up (tied.refusing []) = (.ok report, w₁) ∧
    Journal.standard.runner.up (([["TABLE c"], ["INSERT INTO"]].foldl Journal.standard.attempt tied).refusing []) =
      (.ok report', w₂) ∧
    w₂.database.store.tables = ["a", "b", "c"] ∧
    w₂.database.store.records.map Record.facts = [("-5_a", "a", -5), ("7_b", "b", 7), ("7_c", "c", 7)] ∧
    w₂.database.store.executed = w₁.database.store.executed := by
  have hplain : Text.IsPlain Journal.standard.table := by decide
  obtain ⟨report, w₁, hup, -, -, hstack, -, htables⟩ := up_tied
  obtain ⟨report', w₂, hagain, htables', hfacts, hexecuted⟩ :=
    up_resumes .standard hplain (w := tied) hup [["TABLE c"], ["INSERT INTO"]]
  exact ⟨report, report', w₁, w₂, hplain, hup, hagain, htables'.trans htables, hfacts.trans hstack, hexecuted⟩

end SchemaJournal
