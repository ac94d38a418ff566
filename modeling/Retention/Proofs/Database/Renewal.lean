import Retention.Proofs.Database.History
import Retention.Proofs.Database.Purge

/-! # Renewals

No statement makes more composes of a store expire; only insertions of others do. A turn renews a
store if expired composes arrive before its statement, and that takes a slot with such a row.
-/

namespace Retention.Database

open Calendar

variable {cutoff : Moment} {s s' : Store}

def Row.isExpired (cutoff : Moment) : Row → Bool
  | .compose p => p.isExpired cutoff
  | .clone _ => false

def Slot.renews (cutoff : Moment) (slot : Slot) : Bool :=
  slot.inserts.any (Row.isExpired cutoff)

def Turn.renews (cutoff : Moment) (m : Turn) : Bool :=
  decide (m.trial.store.composesDue cutoff < m.trial.met.composesDue cutoff)

theorem Store.composesDue_insert {row : Row} (h : s.insert row = .ok s') :
    s'.composesDue cutoff = s.composesDue cutoff + if row.isExpired cutoff then 1 else 0 := by
  cases row with
  | compose p =>
    rw [composesDue, (insert_compose_ok h).1, List.countP_append, List.countP_singleton]
    rfl
  | clone c =>
    have hco : s'.composes = s.composes := (insert_clone_ok h).2.1
    simp [composesDue, composeList, hco, Row.isExpired]

theorem Store.composesDue_insertAll_le (s : Store) (rows : List Row) :
    (s.insertAll rows).2.composesDue cutoff ≤ s.composesDue cutoff + rows.countP (Row.isExpired cutoff) := by
  induction rows generalizing s with
  | nil => exact Nat.le_refl _
  | cons row rest ih =>
    simp only [insertAll, List.countP_cons]
    split
    · rename_i s' h
      have hrest := ih s'
      rw [composesDue_insert h] at hrest
      omega
    · exact Nat.le_add_right _ _

theorem Store.composesDue_execute_le (s : Store) (st : Statement) :
    (s.execute st).2.composesDue cutoff ≤ s.composesDue cutoff := by
  by_cases hst : ∃ c, st = .deleteComposes c
  · obtain ⟨c, rfl⟩ := hst
    rcases hx : s.execute (.deleteComposes c) with ⟨e | r, s'⟩
    · have hsame := execute_error (congrArg Prod.fst hx)
      rw [hx] at hsame
      exact hsame ▸ Nat.le_refl _
    · obtain ⟨-, hco, -⟩ := deleteComposes_ok hx
      rw [composesDue, hco]
      exact List.filter_sublist.countP_le
  · rw [composesDue, composeList, composes_execute (not_exists.mp hst)]
    exact Nat.le_refl _

namespace Trial

variable {t : Trial} {st : Statement} {r : Reply}

/-- How often a store is renewed while statements are executed. -/
def renewals (cutoff : Moment) (t : Trial) (sts : List Statement) : Nat :=
  (t.history sts).countP (Turn.renews cutoff)

theorem renewals_append_singleton (t : Trial) (sts : List Statement) (st : Statement) :
    t.renewals cutoff (sts ++ [st]) =
      t.renewals cutoff sts + if Turn.renews cutoff ⟨t.after sts, st⟩ then 1 else 0 := by
  rw [renewals, history_append_singleton, List.countP_append, List.countP_singleton, renewals]

theorem composesDue_execute_le (t : Trial) (st : Statement) :
    (t.execute st).2.store.composesDue cutoff ≤ t.met.composesDue cutoff := by
  cases hr : (t.execute st).1 with
  | error f => exact Nat.le_of_eq (congrArg _ (store_execute_of_error hr))
  | ok r =>
    by_cases hst : st = .stats
    · exact Nat.le_of_eq (congrArg _ (hst ▸ store_execute_stats t))
    · have hle : (t.met.execute st).2.composesDue cutoff ≤ t.met.composesDue cutoff := t.met.composesDue_execute_le st
      rwa [execute_ok hst hr] at hle

theorem execute_deleteComposes_ok (hr : (t.execute (.deleteComposes cutoff)).1 = .ok r) :
    r = .counting (t.met.composesDue cutoff) ∧ (t.execute (.deleteComposes cutoff)).2.store.composesDue cutoff = 0 := by
  obtain ⟨hrep, hco, -⟩ := Store.deleteComposes_ok (execute_ok (by simp) hr)
  refine ⟨hrep, ?_⟩
  rw [Store.composesDue, hco, List.countP_eq_zero]
  intro p hp
  simpa using (List.mem_filter.mp hp).2

theorem slot_renews_of_renews (h : Turn.renews cutoff ⟨t, st⟩ = true) : t.slot.renews cutoff = true := by
  have hlt : t.store.composesDue cutoff < t.met.composesDue cutoff := of_decide_eq_true h
  have hle : t.met.composesDue cutoff ≤ t.store.composesDue cutoff + t.slot.inserts.countP (Row.isExpired cutoff) :=
    t.store.composesDue_insertAll_le t.slot.inserts
  obtain ⟨row, hrow, he⟩ := List.countP_pos_iff.mp (by omega : 0 < t.slot.inserts.countP (Row.isExpired cutoff))
  exact List.any_eq_true.mpr ⟨row, hrow, he⟩

/-- A store is renewed no more often than slots bring expired composes. -/
theorem renewals_le (t : Trial) (sts : List Statement) :
    t.renewals cutoff sts ≤ t.upcoming.countP (Slot.renews cutoff) := by
  induction sts generalizing t with
  | nil => exact Nat.zero_le _
  | cons st rest ih =>
    have hrest := ih (t.execute st).2
    rw [upcoming_execute] at hrest
    rw [renewals, history, List.countP_cons, ← renewals]
    split
    · rename_i hrenews
      have hslot := slot_renews_of_renews hrenews
      unfold slot at hslot
      cases hu : t.upcoming with
      | nil => simp [hu, Slot.quiet, Slot.renews] at hslot
      | cons first others =>
        rw [hu] at hrest hslot
        rw [List.countP_cons, if_pos (show first.renews cutoff = true from hslot)]
        exact Nat.succ_le_succ hrest
    · exact Nat.le_trans hrest t.upcoming.tail_sublist.countP_le

/-- The last deletion of composes has found none. -/
def Emptied (cutoff : Moment) (t : Trial) (sts : List Statement) : Prop :=
  ∃ pre post, sts = pre ++ .deleteComposes cutoff :: post ∧
    (Turn.mk (t.after pre) (.deleteComposes cutoff)).lostComposes = [] ∧ ∀ st ∈ post, st.cutoff? = none

theorem Emptied.append_singleton {sts : List Statement} (h : t.Emptied cutoff sts) (hst : st.cutoff? = none) :
    t.Emptied cutoff (sts ++ [st]) := by
  obtain ⟨pre, post, rfl, hlost, hpost⟩ := h
  refine ⟨pre, post ++ [st], by simp, hlost, fun st' hst' => ?_⟩
  rcases List.mem_append.mp hst' with hst' | hst'
  · exact hpost st' hst'
  · exact List.mem_singleton.mp hst' ▸ hst

end Trial
end Retention.Database
