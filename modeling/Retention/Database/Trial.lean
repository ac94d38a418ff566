import Retention.Database.Store
import Retention.Text.Quoted

/-! # Trials

A trial is a store together with what will happen to it: before each statement other clients may insert rows, and the
statement may fail instead of running. Statistics may be scripted, and the store may refuse to be written.
-/

namespace Retention.Database

/-- What happens at a statement: rows that others insert before it, and a fault in its place. -/
structure Slot where
  inserts : List Row
  fault : Option Fault

def Slot.quiet : Slot := ⟨[], none⟩

/-- A store, the slots of the statements to come, the answers to the next statistics queries, and whether the store may only
be read. -/
structure Trial where
  store : Store
  upcoming : List Slot
  stats : List (Except Fault Reply)
  isReadOnly : Bool

def Statement.failure (st : Statement) (e : DriverError) : DriverError :=
  let parameter (cutoff : Calendar.Moment) := "\n[parameters: (" ++ Text.Quoted.text cutoff.storedText ++ ",)]"
  { e with text := e.text ++ "\n[SQL: " ++ st.sql ++ "]" ++ (st.cutoff?.map parameter).getD "" }

def Row.isCompose : Row → Bool
  | .compose _ => true
  | .clone _ => false

namespace Trial

/-- A store that nothing happens to. -/
def quiet (s : Store) : Trial := ⟨s, [], [], false⟩

def perform (st : Statement) (t : Trial) : Except DriverError Reply × Store :=
  if t.isReadOnly then (t.store.executeReadOnly st, t.store) else t.store.execute st

/-- Statistics are answered by the script while it lasts, all else by the store. -/
def answer (st : Statement) (t : Trial) : Except Fault Reply × Trial :=
  match st, t.stats with
  | .stats, reply :: rest => (reply, { t with stats := rest })
  | st, _ =>
    let done := t.perform st
    (done.1.mapError fun e => .outside (.driver (st.failure e)), { t with store := done.2 })

def slot (t : Trial) : Slot :=
  t.upcoming.headD .quiet

def arrive (t : Trial) : Except Store.BadRow Unit × Trial :=
  let arrived := t.store.insertAll t.slot.inserts
  (arrived.1, { t with store := arrived.2, upcoming := t.upcoming.tail })

/-- Rows arrive, then the statement fails or is answered. -/
def execute (st : Statement) (t : Trial) : Except Fault Reply × Trial :=
  match t.arrive with
  | (.error e, t) => (.error (.outside (.mishap e.toMishap)), t)
  | (.ok (), arrived) =>
    match t.slot.fault with
    | some f => (.error f, arrived)
    | none => arrived.answer st

/-- The composes that are there and those that may come. -/
def budget (t : Trial) : Nat :=
  t.store.composeList.length + (t.upcoming.flatMap Slot.inserts).countP Row.isCompose

theorem composeList_insert_le {s s' : Store} {row : Row} (h : s.insert row = .ok s') :
    s'.composeList.length ≤ s.composeList.length + if row.isCompose then 1 else 0 := by
  cases row with
  | compose c =>
    simp only [Store.insert] at h
    split at h
    · simp at h
    · rename_i composes hc
      split at h
      · simp at h
      · obtain rfl := Except.ok.inj h
        simp [Store.composeList, hc, Row.isCompose]
  | clone c =>
    simp only [Store.insert] at h
    split at h
    · simp at h
    · split at h
      · simp at h
      · split at h
        · simp at h
        · obtain rfl := Except.ok.inj h
          simp [Store.composeList]

theorem composeList_insertAll_le (s : Store) (rows : List Row) :
    (s.insertAll rows).2.composeList.length ≤ s.composeList.length + rows.countP Row.isCompose := by
  induction rows generalizing s with
  | nil => simp [Store.insertAll]
  | cons row rest ih =>
    simp only [Store.insertAll]
    split
    · rename_i s' h
      have h₁ := composeList_insert_le h
      have h₂ := ih s'
      rw [List.countP_cons]
      omega
    · simp

theorem composeList_execute_le (st : Statement) (s : Store) :
    (s.execute st).2.composeList.length ≤ s.composeList.length := by
  cases st <;> simp only [Store.execute, Nat.le_refl]
  · simp only [Store.deleteClones]
    split <;> simp [Store.composeList]
  · simp only [Store.deleteComposes]
    split
    · simp
    · rename_i composes hc
      split
      · simp
      · simpa [Store.composeList, hc] using List.length_filter_le _ composes

theorem composeList_deleteComposes_lt {cutoff : Calendar.Moment} {s : Store} {r : Reply}
    (h : (s.deleteComposes cutoff).1 = .ok r) (ha : r.Affects) :
    (s.deleteComposes cutoff).2.composeList.length < s.composeList.length := by
  simp only [Store.deleteComposes] at h ⊢
  split at h
  · simp at h
  · rename_i composes hc
    split at h
    · simp at h
    · rename_i hf
      obtain rfl := Except.ok.inj h
      have hn := Reply.affects_counting_iff.mp ha
      have hsum := List.length_eq_countP_add_countP (Compose.isExpired cutoff) (l := composes)
      rw [if_neg hf]
      simp only [Store.composeList, hc, Option.getD_some]
      rw [← List.countP_eq_length_filter]
      simp only [Bool.not_eq_true, Bool.decide_eq_false] at hsum
      omega

theorem composeList_perform_le (st : Statement) (t : Trial) :
    (t.perform st).2.composeList.length ≤ t.store.composeList.length := by
  unfold perform
  split
  · exact Nat.le_refl _
  · exact composeList_execute_le st t.store

theorem perform_deleteComposes_lt {cutoff : Calendar.Moment} {t : Trial} {r : Reply}
    (h : (t.perform (.deleteComposes cutoff)).1 = .ok r) (ha : r.Affects) :
    (t.perform (.deleteComposes cutoff)).2.composeList.length < t.store.composeList.length := by
  unfold perform at h ⊢
  split at h
  · simp [Store.executeReadOnly, Statement.writes] at h
  · simp_all [Store.execute, composeList_deleteComposes_lt h ha]

theorem budget_answer_le (st : Statement) (t : Trial) : (t.answer st).2.budget ≤ t.budget := by
  unfold answer
  split
  · simp [budget]
  · simpa [budget] using composeList_perform_le _ t

theorem budget_arrive_le (t : Trial) : t.arrive.2.budget ≤ t.budget := by
  obtain ⟨store, upcoming, stats⟩ := t
  cases upcoming with
  | nil => simp [arrive, slot, budget, Slot.quiet, Store.insertAll]
  | cons slot rest =>
    have := composeList_insertAll_le store slot.inserts
    simp only [arrive, Trial.slot, budget, List.headD_cons, List.tail_cons, List.flatMap_cons, List.countP_append]
    omega

theorem budget_execute_le (st : Statement) (t : Trial) : (t.execute st).2.budget ≤ t.budget := by
  have hle := t.budget_arrive_le
  unfold execute
  generalize t.arrive = arrived at hle ⊢
  obtain ⟨_ | _, arrived⟩ := arrived
  · exact hle
  · cases t.slot.fault with
    | some f => exact hle
    | none => exact Nat.le_trans (budget_answer_le st arrived) hle

theorem budget_answer_lt {cutoff : Calendar.Moment} {t : Trial} {r : Reply}
    (h : (t.answer (.deleteComposes cutoff)).1 = .ok r) (ha : r.Affects) :
    (t.answer (.deleteComposes cutoff)).2.budget < t.budget := by
  simp only [answer] at h ⊢
  cases hr : (t.perform (.deleteComposes cutoff)).1 with
  | error e => simp [hr] at h
  | ok reply =>
    simp only [hr, mapError_ok, Except.ok.injEq] at h
    subst h
    have := perform_deleteComposes_lt hr ha
    simp only [budget]
    omega

theorem budget_deleteComposes_lt {cutoff : Calendar.Moment} {t : Trial} {r : Reply}
    (h : (t.execute (.deleteComposes cutoff)).1 = .ok r) (ha : r.Affects) :
    (t.execute (.deleteComposes cutoff)).2.budget < t.budget := by
  have hle := t.budget_arrive_le
  unfold execute at h ⊢
  generalize t.arrive = arrived at h hle ⊢
  obtain ⟨_ | _, arrived⟩ := arrived
  · simp at h
  · cases hf : t.slot.fault with
    | some f => simp [hf] at h
    | none =>
      simp only [hf] at h
      exact Nat.lt_of_lt_of_le (budget_answer_lt h ha) hle

def connection (dialect : String) : Connection Trial where
  dialect := dialect
  execute := execute
  budget := budget
  budget_le := budget_execute_le
  budget_lt _ _ _ := budget_deleteComposes_lt

end Trial
end Retention.Database
