import Retention.Proofs.Calendar.MonthIndex
import Retention.Proofs.Database.History
import Retention.Proofs.Run.Sequence

/-! # Windows

The window of a run is the number of months that composes are kept. A longer one has an earlier
cutoff, and what has expired by then has expired by every later one, with the clones that refer to
it; so a run never removes more than one with a shorter window.
-/

namespace Retention.Run

open Calendar Database

namespace CalmRun

variable {cutoff cutoff₁ cutoff₂ : Moment} {X : Store}

def lostClones (a : CalmRun cutoff X) : List Clone :=
  X.cloneList.diff a.left.cloneList

def lostComposes (a : CalmRun cutoff X) : List Compose :=
  X.composeList.diff a.left.composeList

theorem lostClones_perm (a : CalmRun cutoff X) (ht : X.HasTables) :
    a.lostClones.Perm (X.cloneList.filter (X.isDue cutoff)) := by
  have hp := perm_diff_filter (!X.isDue cutoff ·) X.cloneList
  rw [lostClones, (a.purges ht).2.1, Store.cloneList_purge]
  simpa only [Bool.not_not] using hp

theorem lostComposes_perm (a : CalmRun cutoff X) (ht : X.HasTables) :
    a.lostComposes.Perm (X.composeList.filter (Compose.isExpired cutoff)) := by
  have hp := perm_diff_filter (!Compose.isExpired cutoff ·) X.composeList
  rw [lostComposes, (a.purges ht).2.1, Store.composeList_purge]
  simpa only [Bool.not_not] using hp

/-- A run at an earlier cutoff removes no row that one at a later cutoff does not. -/
theorem lost_subperm (ht : X.HasTables) (hle : cutoff₂.wallClock ≤ cutoff₁.wallClock) (a : CalmRun cutoff₁ X)
    (b : CalmRun cutoff₂ X) :
    b.lostComposes.Subperm a.lostComposes ∧ b.lostClones.Subperm a.lostClones := by
  have hexpired := Compose.isExpired_of_le hle
  constructor
  · rw [(b.lostComposes_perm ht).subperm_right, (a.lostComposes_perm ht).subperm_left]
    exact (List.monotone_filter_right _ hexpired).subperm
  · rw [(b.lostClones_perm ht).subperm_right, (a.lostClones_perm ht).subperm_left]
    exact (List.monotone_filter_right _ (Store.isDue_of_isDue hexpired)).subperm

/-- Of two windows at one moment, the longer has the earlier cutoff, and a run with it removes some of
the composes and of the clones that a run with the shorter removes from the same store. -/
theorem runs_narrowed {now : Moment} {m₁ m₂ : Int} (hlt : m₁ < m₂) (h₁ : Calendar.cutoff now (.int m₁) = .ok cutoff₁)
    (h₂ : Calendar.cutoff now (.int m₂) = .ok cutoff₂) :
    (cutoff₂.wallClock < cutoff₁.wallClock ∧ cutoff₂.offset = cutoff₁.offset) ∧
      ∀ X : Store, X.HasTables → ∀ (a : CalmRun cutoff₁ X) (b : CalmRun cutoff₂ X), (a.IsDone ∧ b.IsDone) ∧
        b.lostComposes.Subperm a.lostComposes ∧ b.lostClones.Subperm a.lostClones := by
  have hearlier := cutoff_lt_cutoff hlt h₁ h₂
  refine ⟨hearlier, fun X ht a b => ⟨⟨?_, ?_⟩, lost_subperm ht hearlier.1.le a b⟩⟩
  · exact (a.purges ht).1
  · exact (b.purges ht).1

theorem runs_aging_narrowed :
    let a := atEpoch aging (Plan.deletes_now "" epoch)
    let b := atEpoch aging deletes_monthBefore
    monthBefore.wallClock < epoch.wallClock ∧ (a.IsDone ∧ b.IsDone) ∧ b.lostComposes.Subperm a.lostComposes ∧
      b.lostClones.Subperm a.lostClones := by
  intro a b
  obtain ⟨hearlier, hlost⟩ := runs_narrowed (by decide) (cutoff_zero epoch) deletes_monthBefore.cutoff
  exact ⟨hearlier.1, hlost aging (by decide) a b⟩

end CalmRun
end Retention.Run
