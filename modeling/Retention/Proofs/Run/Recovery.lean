import Retention.Proofs.Calendar.StoredOrder
import Retention.Proofs.Run.Calm

/-! # Recovery

Driver errors may cut a live run short at any point. A run at a later cutoff that nothing disturbs
then leaves the store that it would have left alone, and the totals of both runs add up to what it
would have deleted alone.
-/

namespace Retention.Run

open Calendar Database

variable (dialect : String) {faults : StepFaults} {plan₁ plan₂ plan₃ : Plan}
  {now₁ now₂ now₃ cutoff₁ cutoff₂ : Moment}
  (s₁ s₂ s₃ : Session Trial)

/-- What a run at the earlier cutoff has not done, wherever it was cut short, a run at the later
cutoff does: second and single run end done with the same store, and the totals of the first and the
second are those of the single one. -/
theorem run_resumed (hfaults : faults.Within IsDriverFault) (hplan₁ : plan₁.Deletes now₁ cutoff₁)
    (hplan₂ : plan₂.Deletes now₂ cutoff₂) (hplan₃ : plan₃.Deletes now₃ cutoff₂)
    (hle : cutoff₁.wallClock ≤ cutoff₂.wallClock) (ht : s₁.world.store.HasTables)
    (hcalm₁ : Calm IsDriverFault s₁.world)
    (hcalm₂ : Calm (fun _ => False) s₂.world) (hcalm₃ : Calm (fun _ => False) s₃.world)
    (hstore₂ : s₂.world.store = (run ⟨Trial.connection dialect, openConnection faults⟩ plan₁ now₁ s₁).2.world.store)
    (hstore₃ : s₃.world.store = s₁.world.store) :
    let first := run ⟨Trial.connection dialect, openConnection faults⟩ plan₁ now₁ s₁
    let second := run ⟨Trial.connection dialect, openConnection .none⟩ plan₂ now₂ s₂
    let single := run ⟨Trial.connection dialect, openConnection .none⟩ plan₃ now₃ s₃
    ∃ summary₁ summary₂ summary₃, first.1.summary? = some summary₁ ∧ second.1 = .done summary₂ ∧
      single.1 = .done summary₃ ∧ second.2.world.store = single.2.world.store ∧
      summary₁.tally.clonesDeleted.add summary₂.tally.clonesDeleted = .ok summary₃.tally.clonesDeleted ∧
      summary₁.tally.composesDeleted.add summary₂.tally.composesDeleted = .ok summary₃.tally.composesDeleted := by
  intro first second single
  obtain ⟨hend₁, n, phase, h₁⟩ := run_summary dialect (fun _ h => h) hfaults hplan₁ hcalm₁ ht
  have hphase : s₂.world.store = phase.store cutoff₁ s₁.world.store := hstore₂.trans h₁.store
  have ht₂ : s₂.world.store.HasTables := hphase ▸ ht.phase
  obtain ⟨hend₂, h₂⟩ := run_quiet dialect hplan₂ hcalm₂ ht₂
  obtain ⟨hend₃, h₃⟩ := run_quiet dialect hplan₃ hcalm₃ (hstore₃ ▸ ht)
  have hexpired := Compose.isExpired_of_le hle
  refine ⟨_, _, _, hend₁, hend₂, hend₃, ?_, ?_, ?_⟩
  · rw [h₂.store, h₃.store, hphase, hstore₃, Phase.purge_store hexpired]
  · rw [h₁.clonesDeleted, h₂.clonesDeleted, h₃.clonesDeleted, Quantity.add_whole, hphase, hstore₃,
      ← Int.natCast_add, Phase.clones_add_clonesDue hexpired]
  · rw [h₁.composesDeleted, h₂.composesDeleted, h₃.composesDeleted, Quantity.add_whole, hphase, hstore₃,
      ← Int.natCast_add, Phase.composes_add_composesDue hexpired]

/-- A trial with two old composes, in which the first deletion of composes fails. -/
def locked : Trial where
  store := ⟨some [⟨some "a", some "1969-10-31"⟩, ⟨some "b", some "1969-12-31"⟩], some [some "a", some "b"], true⟩
  upcoming := [.quiet, .quiet, ⟨[], some (.outside (.driver ⟨.operational, none, "database is locked"⟩))⟩]
  stats := []
  isReadOnly := false

theorem run_locked :
    let first := run ⟨Trial.connection "sqlite", openConnection .none⟩ ⟨"", .bool false, .int 1⟩ (.ofEpochMicros 0)
      (.start locked)
    let second := run ⟨Trial.connection "sqlite", openConnection .none⟩ ⟨"", .bool false, .int 0⟩ (.ofEpochMicros 0)
      (.start (.quiet first.2.world.store))
    let single := run ⟨Trial.connection "sqlite", openConnection .none⟩ ⟨"", .bool false, .int 0⟩ (.ofEpochMicros 0)
      (.start (.quiet locked.store))
    ∃ summary₁ summary₂ summary₃, first.1.summary? = some summary₁ ∧ second.1 = .done summary₂ ∧
      single.1 = .done summary₃ ∧ second.2.world.store = single.2.world.store ∧
      summary₁.tally.clonesDeleted.add summary₂.tally.clonesDeleted = .ok summary₃.tally.clonesDeleted ∧
      summary₁.tally.composesDeleted.add summary₂.tally.composesDeleted = .ok summary₃.tally.composesDeleted := by
  have hplan₁ : Plan.Deletes ⟨"", .bool false, .int 1⟩ (.ofEpochMicros 0)
      { Moment.ofEpochMicros 0 with date := ⟨1969, 12, 1, by decide, by decide, by decide⟩ } :=
    ⟨rfl, by decide +kernel⟩
  have hplan₂ : Plan.Deletes ⟨"", .bool false, .int 0⟩ (.ofEpochMicros 0) (.ofEpochMicros 0) :=
    ⟨rfl, by decide +kernel⟩
  have hlocked : Calm IsDriverFault locked := by
    refine ⟨by decide, fun slot hs f hf => ?_, by simp [locked], rfl⟩
    simp only [locked, List.mem_cons, List.not_mem_nil, or_false] at hs
    rcases hs with rfl | rfl | rfl
    · simp [Slot.quiet] at hf
    · simp [Slot.quiet] at hf
    · exact ⟨_, (Option.some.inj hf).symm⟩
  exact run_resumed "sqlite" (.start locked) (.start (.quiet _)) (.start (.quiet locked.store))
    (StepFaults.within_none _) hplan₁ hplan₂ hplan₂ (by decide +kernel) (by decide) hlocked (calm_quiet _ _) (calm_quiet _ _)
    (by simp only [Session.start, Trial.quiet]) rfl

end Retention.Run
