import Retention.Proofs.Run.Calm

/-! # What a run retains

A live run that nothing disturbs leaves exactly the composes that have not expired, and the clones
whose compose has not, in their order.
-/

namespace Retention.Run

open Calendar Database

variable (dialect : String) {plan : Plan} {now cutoff : Moment} {s : Session Trial} {composes : List Compose}
  {clones : List Clone} {foreignKey : Bool} {stats : List (Except Fault Reply)}

theorem whole_length_sub_filter {α : Type} (p : α → Bool) (l : List α) :
    Quantity.whole (l.countP p) = .whole (l.length - (l.filter (!p ·)).length) := by
  have hl := List.length_eq_countP_add_countP p (l := l)
  have hn : (l.filter (!p ·)).length = l.countP fun a => !p a := (List.countP_eq_length_filter).symm
  simp only [Bool.not_eq_true, Bool.decide_eq_false] at hl
  congr 1
  omega

/-- A run ends done with the unexpired composes and their clones, whatever is observed of the
statistics. Its totals are the numbers of rows that are gone, and it takes a second pass if a
compose had expired. -/
theorem run_retains (hplan : plan.Deletes now cutoff)
    (hs : s.world = ⟨⟨some composes, some clones, foreignKey⟩, [], stats, false⟩)
    (hu : s.world.store.HasUniqueIds)
    (hstats : ∀ answer ∈ stats, Observed answer) :
    let r := run ⟨Trial.connection dialect, openConnection .none⟩ plan now s
    let keptComposes := composes.filter (!Compose.isExpired cutoff ·)
    let keptClones := clones.filter fun c => !(s.world.store.parent? c).any (Compose.isExpired cutoff)
    ∃ tally, r.1 = .done ⟨cutoff, plan.dryRun, tally⟩ ∧
      r.2.world.store = ⟨some keptComposes, some keptClones, foreignKey⟩ ∧
      tally.clonesDeleted = .whole (clones.length - keptClones.length) ∧
      tally.composesDeleted = .whole (composes.length - keptComposes.length) ∧
      tally.iterations = (if composes.any (Compose.isExpired cutoff) then 2 else 1) ∧
      tally.expiredClones = none ∧ tally.expiredComposes = none := by
  intro r keptComposes keptClones
  have hcalm : Calm (fun _ => False) s.world := by
    rw [hs]
    exact ⟨by simp, by simp, hstats, rfl⟩
  have hcl : s.world.store.clones = some clones := by rw [hs]
  have hco : s.world.store.composes = some composes := by rw [hs]
  have hk : s.world.store.foreignKey = foreignKey := by rw [hs]
  have hkept : keptClones = clones.filter (!s.world.store.isDue cutoff ·) := by
    apply List.filter_congr
    intro c _
    rw [Store.isDue, hu.refersTo_eq]
  have htables : s.world.store.HasTables := by simp [Store.HasTables, hcl, hco]
  obtain ⟨hdone, h⟩ := run_quiet dialect hplan hcalm htables
  refine ⟨_, hdone, h.store.trans ?_, h.clonesDeleted.trans ?_, h.composesDeleted.trans ?_, h.iterations.trans ?_,
    h.uncounted⟩
  · rw [Store.purge, Store.disown, hcl, hco, hk, hkept]
    rfl
  · rw [hkept, ← whole_length_sub_filter, Store.clonesDue, Store.cloneList, hcl, Option.getD_some]
  · rw [← whole_length_sub_filter, Store.composesDue, Store.composeList, hco, Option.getD_some]
  · have hzero : s.world.store.composesDue cutoff = 0 ↔ composes.any (Compose.isExpired cutoff) = false := by
      simp [Store.composesDue, Store.composeList, hco]
    cases hany : composes.any (Compose.isExpired cutoff) with
    | false => rw [if_pos (hzero.mpr hany), if_neg Bool.false_ne_true]
    | true => rw [if_neg (by simp [hzero, hany]), if_pos rfl]

/-- A store with an expired compose and one that was created at the cutoff, each with a clone. -/
def dated : Store :=
  ⟨some [⟨some "a", some "1969-12-31"⟩, ⟨some "b", some "1970-01-01 00:00:00.000000"⟩], some [some "a", some "b"], true⟩

theorem run_dated :
    let r := run ⟨Trial.connection "sqlite", openConnection .none⟩ ⟨"", .bool false, .int 0⟩ (.ofEpochMicros 0)
      (.start ⟨dated, [], [.ok { Reply.empty with rows := [.int 1] }], false⟩)
    ∃ tally, r.1 = .done ⟨.ofEpochMicros 0, .bool false, tally⟩ ∧
      r.2.world.store = ⟨some [⟨some "b", some "1970-01-01 00:00:00.000000"⟩], some [some "b"], true⟩ ∧
      tally.clonesDeleted = .whole 1 ∧ tally.composesDeleted = .whole 1 ∧ tally.iterations = 2 ∧
      tally.expiredClones = none ∧ tally.expiredComposes = none := by
  have hplan : Plan.Deletes ⟨"", .bool false, .int 0⟩ (.ofEpochMicros 0) (.ofEpochMicros 0) :=
    ⟨rfl, by decide +kernel⟩
  have hstats : ∀ answer ∈ [.ok { Reply.empty with rows := [.int 1] }], Observed answer := by
    intro answer h
    rw [List.mem_singleton.mp h]
    exact ⟨rfl, fun f hf => ⟨_, (Option.some.inj hf).symm, rfl⟩⟩
  obtain ⟨tally, hdone, hstore, hclones, hcomposes, hiterations, huncounted⟩ :=
    run_retains "sqlite" (s := .start ⟨dated, [], _, false⟩) hplan rfl (by decide) hstats
  exact ⟨tally, hdone, hstore.trans (by decide +kernel), hclones.trans (by decide +kernel),
    hcomposes.trans (by decide +kernel), hiterations.trans (by decide +kernel), huncounted⟩

end Retention.Run
