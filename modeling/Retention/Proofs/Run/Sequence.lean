import Retention.Proofs.Calendar.StoredOrder
import Retention.Proofs.Run.Calm
import Retention.Proofs.Run.Deeds

/-! # Runs in sequence

A live run that nothing disturbs purges the store. Of two such runs, the second starts from what the
first has left; in whichever order, they come to what a single run at the later cutoff comes to.
-/

namespace Retention.Run

open Calendar Database

/-- A live run at a cutoff on a store, that neither others nor faults disturb. -/
structure CalmRun (cutoff : Moment) (X : Store) where
  dialect : String
  plan : Plan
  now : Moment
  session : Session Trial
  deletes : plan.Deletes now cutoff
  calm : Calm (fun _ => False) session.world
  store : session.world.store = X

namespace CalmRun

section One

variable {cutoff : Moment} {X : Store} (a : CalmRun cutoff X)

/-- Any store and cutoff have a run, on a store that nothing happens to. -/
instance : Nonempty (CalmRun cutoff X) :=
  ⟨"sqlite", _, cutoff, .start (.quiet X), Plan.deletes_now "" cutoff, calm_quiet _ X, rfl⟩

def result : Ending × Session Trial :=
  run ⟨Trial.connection a.dialect, openConnection .none⟩ a.plan a.now a.session

def left : Store :=
  a.result.2.world.store

def tally : Tally :=
  a.result.2.tally

def IsDone : Prop :=
  a.result.1 = .done ⟨cutoff, a.plan.dryRun, a.tally⟩

theorem purges (ht : X.HasTables) :
    a.IsDone ∧ a.left = X.purge cutoff ∧
      a.tally.HasSums ⟨if X.composesDue cutoff = 0 then 1 else 2, X.clonesDue cutoff, X.composesDue cutoff⟩ := by
  obtain ⟨hdone, h⟩ := run_quiet a.dialect a.deletes a.calm (a.store.symm ▸ ht)
  rw [a.store] at h
  exact ⟨hdone, h.store, h.iterations, h.clonesDeleted, h.composesDeleted⟩

theorem purges_of_eq {Y : Store} (hX : X = Y) (ht : Y.HasTables) :
    a.IsDone ∧ a.left = Y.purge cutoff ∧
      a.tally.HasSums ⟨if Y.composesDue cutoff = 0 then 1 else 2, Y.clonesDue cutoff, Y.composesDue cutoff⟩ := by
  subst hX
  exact a.purges ht

end One

section Two

variable {cutoff₁ cutoff₂ cutoff : Moment} {X : Store}

/-- A run and another on the store that it has left come to what a single run comes to. -/
structure AmountTo (a : CalmRun cutoff₁ X) (b : CalmRun cutoff₂ a.left) (single : CalmRun cutoff X) : Prop where
  done : a.IsDone ∧ b.IsDone ∧ single.IsDone
  left : b.left = single.left
  clones : a.tally.clonesDeleted.add b.tally.clonesDeleted = .ok single.tally.clonesDeleted
  composes : a.tally.composesDeleted.add b.tally.composesDeleted = .ok single.tally.composesDeleted

theorem amountTo (ht : X.HasTables) (hmax : cutoff.wallClock = max cutoff₁.wallClock cutoff₂.wallClock)
    (a : CalmRun cutoff₁ X) (b : CalmRun cutoff₂ a.left) (single : CalmRun cutoff X) : AmountTo a b single := by
  have hle₁ := Compose.isExpired_of_le (le_of_le_of_eq (le_max_left _ _) hmax.symm)
  have hle₂ := Compose.isExpired_of_le (le_of_le_of_eq (le_max_right _ _) hmax.symm)
  have hge := (max_choice cutoff₁.wallClock cutoff₂.wallClock).imp
    (fun h => Compose.isExpired_of_le (hmax.trans h).le) fun h => Compose.isExpired_of_le (hmax.trans h).le
  obtain ⟨hdone, hleft, hsums⟩ := a.purges ht
  obtain ⟨hdone', hleft', hsums'⟩ := b.purges_of_eq hleft ht.purge
  obtain ⟨hsingle, hleftSingle, hsumsSingle⟩ := single.purges ht
  refine ⟨⟨hdone, hdone', hsingle⟩, ?_, ?_, ?_⟩
  · rw [hleft', hleftSingle, Store.purge_purge_eq hle₁ hle₂ hge]
  · rw [hsums.clones, hsums'.clones, hsumsSingle.clones, Quantity.add_whole, ← Int.natCast_add,
      Store.clonesDue_add_clonesDue hle₁ hle₂ hge]
  · rw [hsums.composes, hsums'.composes, hsumsSingle.composes, Quantity.add_whole, ← Int.natCast_add,
      Store.composesDue_add_composesDue hle₁ hle₂ hge]

theorem idle (ht : X.HasTables) (hle : cutoff₂.wallClock ≤ cutoff₁.wallClock) (a : CalmRun cutoff₁ X)
    (b : CalmRun cutoff₂ a.left) : b.tally.HasSums ⟨1, 0, 0⟩ ∧ b.left = a.left := by
  have hexpired := Compose.isExpired_of_le hle
  obtain ⟨-, hleft, -⟩ := a.purges ht
  obtain ⟨-, hleft', hsums'⟩ := b.purges_of_eq hleft ht.purge
  rw [Store.clonesDue_purge_of_le hexpired, Store.composesDue_purge_of_le hexpired, if_pos rfl] at hsums'
  rw [Store.purge_purge_of_le hexpired] at hleft'
  exact ⟨hsums', hleft'.trans hleft.symm⟩

/-- Two live runs in either order and a single one at the later of their cutoffs leave the same
store, and the totals of each two are those of the single one; after a run, one at a cutoff that is
not later makes one pass and deletes nothing. -/
theorem runs_composed (ht : X.HasTables) (hmax : cutoff.wallClock = max cutoff₁.wallClock cutoff₂.wallClock)
    (a : CalmRun cutoff₁ X) (b : CalmRun cutoff₂ a.left) (a' : CalmRun cutoff₂ X) (b' : CalmRun cutoff₁ a'.left)
    (single : CalmRun cutoff X) :
    AmountTo a b single ∧ AmountTo a' b' single ∧
      (cutoff₂.wallClock ≤ cutoff₁.wallClock → b.tally.HasSums ⟨1, 0, 0⟩ ∧ b.left = a.left) :=
  ⟨amountTo ht hmax a b single, amountTo ht (hmax.trans (max_comm _ _)) a' b' single, fun hle => idle ht hle a b⟩

end Two

section Epoch

def epoch : Moment :=
  .ofEpochMicros 0

def monthBefore : Moment :=
  { epoch with date := ⟨1969, 12, 1, by decide, by decide, by decide⟩ }

def atEpoch (X : Store) {cutoff : Moment} {months : Int}
    (h : Plan.Deletes ⟨"", .bool false, .int months⟩ epoch cutoff) : CalmRun cutoff X :=
  ⟨"sqlite", ⟨"", .bool false, .int months⟩, epoch, .start (.quiet X), h, calm_quiet _ X, rfl⟩

theorem deletes_monthBefore : Plan.Deletes ⟨"", .bool false, .int 1⟩ epoch monthBefore :=
  ⟨rfl, by decide +kernel⟩

/-- A store with an old compose, one of the last month and a later one. -/
def aging : Store :=
  ⟨some [⟨some "a", some "1969-10-31"⟩, ⟨some "b", some "1969-12-15"⟩, ⟨some "c", some "1970-06-01"⟩],
    some [some "a", some "b", some "c"], true⟩

theorem runs_aging :
    let a := atEpoch aging (Plan.deletes_now "" epoch)
    let b := atEpoch a.left deletes_monthBefore
    let a' := atEpoch aging deletes_monthBefore
    let b' := atEpoch a'.left (Plan.deletes_now "" epoch)
    AmountTo a b a ∧ AmountTo a' b' a ∧ b.tally.HasSums ⟨1, 0, 0⟩ ∧ b.left = a.left := by
  intro a b a' b'
  obtain ⟨hab, hab', hidle⟩ := runs_composed (by decide) (by decide +kernel) a b a' b' a
  exact ⟨hab, hab', hidle (by decide +kernel)⟩

end Epoch
end CalmRun
end Retention.Run
