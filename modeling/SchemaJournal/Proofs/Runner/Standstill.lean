import SchemaJournal.Proofs.Runner.Contents

/-!
# Reverting without effect

Reverting that fails leaves the contents of the store, whichever of its steps fails (`DownFails`). It ends without a
migration if and only if the tracking table and the latest record can be asked for and there is no record
(`Journal.Spent`); these two calls are then the only ones (`down_without_effect`).
-/

namespace SchemaJournal

open Database Database.Store World

variable {j : Journal} {failing : List String} {files : FileTree} {k : Contents} {e : Error}

/-- Where there is nothing to revert, nothing fails. -/
theorem DownFails.not_spent (h : DownFails j failing files k e) : ¬j.Spent failing k := by
  intro hs
  have hnone : ∀ r, ¬IsLatest k.records r := fun r hr => hr.ne_nil hs.records
  cases h with
  | creation hr => exact hs.creation hr
  | query hr => exact hs.query hr
  | unreadable hr hf => exact hnone _ hr
  | missing hr hf => exact hnone _ hr
  | unit hr hf hu => exact hnone _ hr

/-- Asking for the tracking table and the latest record starts no transaction. -/
theorem Journal.unopened_inquiry (j : Journal) : Unopened j.inquiry := by
  simp [Unopened, inquiry]

/-- **Reverting without effect.** Reverting that fails says why and leaves the contents of the store. It reverts nothing
if and only if the statements before the transaction are not refused and there are no records; then it asks for the
tracking table and the latest record, starts no transaction and leaves the contents as well. -/
theorem down_without_effect (j : Journal) (w : World Memory) :
    let store := w.database.store
    let calls := Runner.exchanges Runner.down j.runner w
    (∀ e, (j.runner.down w).1 = .error e → DownFails j store.failing w.files store.contents e ∧
      (j.runner.down w).2.database.store.contents = store.contents) ∧
    ((j.runner.down w).1 = .ok none ↔ j.Spent store.failing store.contents) ∧
    ((j.runner.down w).1 = .ok none → calls = j.inquiry ∧ Unopened calls ∧
      (j.runner.down w).2.database.store.contents = store.contents) := by
  intro store calls
  have hdown : Ensures w.files (fun t => Rests (fun _ _ => True) store.failing store.contents [] t ∧ t.exchanges = [])
      j.session.down _ _ := ensures_down [] fun _ _ _ _ _ _ _ => trivial
  obtain ⟨t, hdatabase, hcalls, hres⟩ := j.runner.mirrors_down.ends Runner.down hdown
    ⟨rests_blank w.database trivial, rfl⟩
  rw [← hdatabase]
  cases hrun : (j.runner.down w).1 with
  | error e =>
    rw [hrun] at hres
    obtain ⟨hfails, ht⟩ := hres
    refine ⟨fun e' he => ?_, ⟨nofun, fun hs => absurd hs hfails.not_spent⟩, nofun⟩
    cases he
    exact ⟨hfails, ht.contents⟩
  | ok id =>
    rw [hrun] at hres
    rcases hres with ⟨hspent, rfl, ht, hinquiry⟩ | ⟨r, m, k', hr, -, rfl, -, -⟩
    · have hall : calls = j.inquiry := hcalls.symm.trans hinquiry
      exact ⟨nofun, ⟨fun _ => hspent, fun _ => rfl⟩, fun _ => ⟨hall, hall ▸ j.unopened_inquiry, ht.contents⟩⟩
    · -- A migration was reverted, so there was a record.
      exact ⟨nofun, ⟨nofun, fun hs => absurd hs.records hr.ne_nil⟩, nofun⟩

end SchemaJournal
