import Mathlib.Data.List.Count
import Retention.Database.Trial
import Retention.Proofs.Database.References

/-! # Histories

A history lists the statements that were executed on a trial, each with the trial that it met. What
a statement removes is read off the store before and after it. Only deletions remove rows, a failed
statement removes none, and a deletion that succeeds reports the number of rows that it removes.
-/

namespace Retention.Database

open Calendar

theorem perm_diff_filter {α : Type} [BEq α] [LawfulBEq α] (p : α → Bool) (l : List α) :
    (l.diff (l.filter p)).Perm (l.filter (!p ·)) := by
  rw [List.perm_iff_count]
  intro a
  rw [List.count_diff]
  cases hp : p a with
  | true =>
    have hn : a ∉ l.filter (!p ·) := by simp [hp]
    rw [List.count_filter hp, List.count_eq_zero_of_not_mem hn, Nat.sub_self]
  | false =>
    have hn : a ∉ l.filter p := by simp [hp]
    have hc : (l.filter (!p ·)).count a = l.count a := List.count_filter (by simp [hp])
    rw [hc, List.count_eq_zero_of_not_mem hn, Nat.sub_zero]

theorem diff_self {α : Type} [BEq α] [LawfulBEq α] (l : List α) : l.diff l = [] := by
  have h := perm_diff_filter (fun _ => true) l
  rw [List.filter_eq_self.mpr fun _ _ => rfl, List.filter_eq_nil_iff.mpr (by simp)] at h
  exact h.eq_nil

/-- A statement with the trial that it meets. -/
structure Turn where
  trial : Trial
  statement : Statement

namespace Trial

variable {t : Trial} {st : Statement} {r : Reply}

/-- The store that the next statement meets, once the rows of its slot have arrived. -/
def met (t : Trial) : Store :=
  t.arrive.2.store

def after (t : Trial) (sts : List Statement) : Trial :=
  sts.foldl (fun t st => (t.execute st).2) t

/-- The turns of statements that are executed one after the other. -/
def history (t : Trial) : List Statement → List Turn
  | [] => []
  | st :: rest => ⟨t, st⟩ :: history (t.execute st).2 rest

theorem after_append_singleton (t : Trial) (sts : List Statement) (st : Statement) :
    t.after (sts ++ [st]) = ((t.after sts).execute st).2 := by
  simp [after]

theorem history_append_singleton (t : Trial) (sts : List Statement) (st : Statement) :
    t.history (sts ++ [st]) = t.history sts ++ [⟨t.after sts, st⟩] := by
  induction sts generalizing t with
  | nil => rfl
  | cons first rest ih => simp [history, after, ih]

theorem perform_ok {s : Store} (h : t.perform st = (.ok r, s)) :
    t.store.execute st = (.ok r, s) := by
  unfold perform at h
  split at h
  · simp only [Prod.mk.injEq] at h
    obtain ⟨h, rfl⟩ := h
    unfold Store.executeReadOnly at h
    split at h
    · simp at h
    · rename_i hw
      exact Prod.ext h (Store.execute_of_not_writes (by simpa using hw) _)
  · exact h

theorem perform_error {s : Store} {e : DriverError} (h : t.perform st = (.error e, s)) :
    s = t.store := by
  unfold perform at h
  split at h
  · exact (Prod.mk.inj h).2.symm
  · have := Store.execute_error (congrArg Prod.fst h)
    rw [h] at this
    exact this

theorem answer_scripted {reply : Except Fault Reply} {rest : List (Except Fault Reply)}
    (h : t.stats = reply :: rest) :
    t.answer .stats = (reply, { t with stats := rest }) := by
  simp [answer, h]

theorem answer_performed (h : st = .stats → t.stats = []) :
    t.answer st = ((t.perform st).1.mapError fun e => .outside (.driver (st.failure e)),
      { t with store := (t.perform st).2 }) := by
  unfold answer
  split
  · rename_i hs
    exact absurd (h rfl) (by simp [hs])
  · rfl

/-- A statement is not answered, for rows or a fault are in the way, or it is answered by the trial
that is met. -/
theorem execute_cases (t : Trial) (st : Statement) :
    (∃ f, t.execute st = (.error f, t.arrive.2)) ∨ t.execute st = t.arrive.2.answer st := by
  unfold execute
  rcases t.arrive with ⟨e | _, arrived⟩
  · exact .inl ⟨_, rfl⟩
  · cases hf : t.slot.fault with
    | some f => exact .inl ⟨f, rfl⟩
    | none => exact .inr rfl

theorem store_execute_stats (t : Trial) : (t.execute .stats).2.store = t.met := by
  rcases execute_cases t .stats with ⟨f, hx⟩ | hx
  · rw [hx]
    rfl
  · rw [hx]
    cases hs : t.arrive.2.stats with
    | cons reply rest => rw [answer_scripted hs]; rfl
    | nil =>
      rw [answer_performed fun _ => hs, perform]
      split <;> rfl

theorem store_execute_of_error {f : Fault} (h : (t.execute st).1 = .error f) :
    (t.execute st).2.store = t.met := by
  by_cases hst : st = .stats
  · exact hst ▸ store_execute_stats t
  · rcases execute_cases t st with ⟨f, hx⟩ | hx
    · rw [hx]
      rfl
    · rw [hx, answer_performed fun hs => absurd hs hst] at h ⊢
      rcases hp : t.arrive.2.perform st with ⟨e | r, s⟩
      · exact perform_error hp
      · simp [hp] at h

theorem execute_ok (hst : st ≠ .stats) (h : (t.execute st).1 = .ok r) :
    t.met.execute st = (.ok r, (t.execute st).2.store) := by
  rcases execute_cases t st with ⟨f, hx⟩ | hx
  · simp [hx] at h
  · rw [hx, answer_performed fun hs => absurd hs hst] at h ⊢
    rcases hp : t.arrive.2.perform st with ⟨e | r', s⟩
    · simp [hp] at h
    · simp only [hp, mapError_ok, Except.ok.injEq] at h
      subst h
      exact perform_ok hp

theorem sound_met (hs : t.store.Sound) (hrows : .clone none ∉ t.slot.inserts) : t.met.Sound :=
  hs.insertAll hrows

theorem sound_execute (hm : t.met.Sound) (st : Statement) : (t.execute st).2.store.Sound := by
  cases hr : (t.execute st).1 with
  | error f => exact store_execute_of_error hr ▸ hm
  | ok r =>
    by_cases hst : st = .stats
    · subst hst
      exact store_execute_stats t ▸ hm
    · have := hm.execute st
      rwa [execute_ok hst hr] at this

/-- Others insert no clone that refers to nothing. -/
def InsertsAnchored (t : Trial) : Prop :=
  ∀ slot ∈ t.upcoming, .clone none ∉ slot.inserts

instance (t : Trial) : Decidable t.InsertsAnchored :=
  inferInstanceAs (Decidable (∀ slot ∈ t.upcoming, .clone none ∉ slot.inserts))

theorem InsertsAnchored.slot (ht : t.InsertsAnchored) : .clone none ∉ t.slot.inserts := by
  unfold Trial.slot
  cases hu : t.upcoming with
  | nil => simp [Slot.quiet]
  | cons first rest => exact ht first (by simp [hu])

theorem upcoming_execute (t : Trial) (st : Statement) :
    (t.execute st).2.upcoming = t.upcoming.tail := by
  rcases execute_cases t st with ⟨f, hx⟩ | hx
  · rw [hx]
    rfl
  · rw [hx]
    unfold answer
    split <;> rfl

theorem store_execute_of_not_writes (hst : st.writes = false) : (t.execute st).2.store = t.met := by
  by_cases hstats : st = .stats
  · exact hstats ▸ store_execute_stats t
  · cases hr : (t.execute st).1 with
    | error f => exact store_execute_of_error hr
    | ok r =>
      have hmet := congrArg Prod.snd (execute_ok hstats hr)
      exact hmet.symm.trans (Store.execute_of_not_writes hst _)

def IsAlone (t : Trial) : Prop :=
  ∀ slot ∈ t.upcoming, slot.inserts = []

theorem IsAlone.met (ht : t.IsAlone) : t.met = t.store := by
  have hslot : t.slot.inserts = [] := by
    unfold Trial.slot
    cases hu : t.upcoming with
    | nil => rfl
    | cons first rest => exact ht first (by simp [hu])
  rw [Trial.met, arrive, hslot]
  rfl

theorem IsAlone.execute (ht : t.IsAlone) (st : Statement) : (t.execute st).2.IsAlone := by
  intro slot hslot
  rw [upcoming_execute] at hslot
  exact ht slot (List.mem_of_mem_tail hslot)

theorem InsertsAnchored.execute (ht : t.InsertsAnchored) (st : Statement) :
    (t.execute st).2.InsertsAnchored := by
  intro slot hslot
  rw [upcoming_execute] at hslot
  exact ht slot (List.mem_of_mem_tail hslot)

/-- Soundness lasts through every history. -/
theorem sound_of_mem_history (hs : t.store.Sound) (ht : t.InsertsAnchored) {sts : List Statement} {m : Turn}
    (hm : m ∈ t.history sts) : m.trial.met.Sound := by
  induction sts generalizing t with
  | nil => simp [history] at hm
  | cons st rest ih =>
    have hmet : t.met.Sound := sound_met hs ht.slot
    rcases List.mem_cons.mp hm with rfl | hm
    · exact hmet
    · exact ih (sound_execute hmet st) (ht.execute st) hm

end Trial

namespace Turn

variable {m : Turn} {cutoff : Moment} {c : Clone} {p : Compose}

def next (m : Turn) : Trial :=
  (m.trial.execute m.statement).2

def lostClones (m : Turn) : List Clone :=
  m.trial.met.cloneList.diff m.next.store.cloneList

def lostComposes (m : Turn) : List Compose :=
  m.trial.met.composeList.diff m.next.store.composeList

theorem lost_of_error {f : Fault} (h : (m.trial.execute m.statement).1 = .error f) :
    m.lostClones = [] ∧ m.lostComposes = [] := by
  have hs := Trial.store_execute_of_error h
  simp only [lostClones, lostComposes, next, hs, diff_self, and_self]

theorem lostClones_of_ne (h : ∀ cutoff, m.statement ≠ .deleteClones cutoff) :
    m.lostClones = [] := by
  cases hr : (m.trial.execute m.statement).1 with
  | error f => exact (lost_of_error hr).1
  | ok r =>
    have hcl : m.next.store.clones = m.trial.met.clones := by
      by_cases hst : m.statement = .stats
      · rw [next, hst, Trial.store_execute_stats]
      · have := Store.clones_execute (s := m.trial.met) h
        rwa [Trial.execute_ok hst hr] at this
    rw [lostClones, Store.cloneList, Store.cloneList, hcl, diff_self]

theorem lostComposes_of_ne (h : ∀ cutoff, m.statement ≠ .deleteComposes cutoff) :
    m.lostComposes = [] := by
  cases hr : (m.trial.execute m.statement).1 with
  | error f => exact (lost_of_error hr).2
  | ok r =>
    have hco : m.next.store.composes = m.trial.met.composes := by
      by_cases hst : m.statement = .stats
      · rw [next, hst, Trial.store_execute_stats]
      · have := Store.composes_execute (s := m.trial.met) h
        rwa [Trial.execute_ok hst hr] at this
    rw [lostComposes, Store.composeList, Store.composeList, hco, diff_self]

theorem lostClones_deleteClones {r : Reply} (hst : m.statement = .deleteClones cutoff)
    (hr : (m.trial.execute m.statement).1 = .ok r) :
    m.lostClones.Perm (m.trial.met.cloneList.filter (refersTo (expiredIds cutoff m.trial.met.composeList))) ∧
      r = .counting m.lostClones.length := by
  have hx := Trial.execute_ok (by simp [hst]) hr
  rw [hst] at hx
  obtain ⟨hrep, hcl, -⟩ := Store.deleteClones_ok hx
  have hp := perm_diff_filter (!refersTo (expiredIds cutoff m.trial.met.composeList) ·) m.trial.met.cloneList
  rw [← hcl, ← hst] at hp
  simp only [Bool.not_not] at hp
  refine ⟨hp, ?_⟩
  rw [lostClones, next, hp.length_eq, hrep, List.countP_eq_length_filter]

theorem lostComposes_deleteComposes {r : Reply} (hst : m.statement = .deleteComposes cutoff)
    (hr : (m.trial.execute m.statement).1 = .ok r) :
    m.lostComposes.Perm (m.trial.met.composeList.filter (Compose.isExpired cutoff)) ∧
      r = .counting m.lostComposes.length := by
  have hx := Trial.execute_ok (by simp [hst]) hr
  rw [hst] at hx
  obtain ⟨hrep, hco, -⟩ := Store.deleteComposes_ok hx
  have hp := perm_diff_filter (!Compose.isExpired cutoff ·) m.trial.met.composeList
  rw [← hco, ← hst] at hp
  simp only [Bool.not_not] at hp
  refine ⟨hp, ?_⟩
  rw [lostComposes, next, hp.length_eq, hrep, List.countP_eq_length_filter]

/-- The statement looks at no other cutoff. -/
def IsAt (m : Turn) (cutoff : Moment) : Prop :=
  ∀ c, m.statement.cutoff? = some c → c = cutoff

theorem isExpired_of_mem_lostComposes (hm : m.IsAt cutoff) (h : p ∈ m.lostComposes) :
    p.isExpired cutoff = true := by
  by_cases hst : ∃ c, m.statement = .deleteComposes c
  · obtain ⟨c, hst⟩ := hst
    obtain rfl := hm c (by simp [hst, Statement.cutoff?])
    cases hr : (m.trial.execute m.statement).1 with
    | error f => simp [(lost_of_error hr).2] at h
    | ok r =>
      rw [(lostComposes_deleteComposes hst hr).1.mem_iff] at h
      exact (List.mem_filter.mp h).2
  · rw [lostComposes_of_ne (not_exists.mp hst)] at h
    simp at h

/-- A clone goes only while the compose that it refers to is there and has expired. -/
theorem parent_of_mem_lostClones (hu : m.trial.met.HasUniqueIds) (hm : m.IsAt cutoff) (h : c ∈ m.lostClones) :
    ∃ p, m.trial.met.parent? c = some p ∧ p.isExpired cutoff = true := by
  by_cases hst : ∃ c, m.statement = .deleteClones c
  · obtain ⟨c', hst⟩ := hst
    obtain rfl := hm c' (by simp [hst, Statement.cutoff?])
    cases hr : (m.trial.execute m.statement).1 with
    | error f => simp [(lost_of_error hr).1] at h
    | ok r =>
      rw [(lostClones_deleteClones hst hr).1.mem_iff, List.mem_filter, hu.refersTo_eq,
        Option.any_eq_true] at h
      exact h.2
  · rw [lostClones_of_ne (not_exists.mp hst)] at h
    simp at h

/-- The store is sound afterwards, and only expired composes and clones of expired composes are
gone. -/
structure Proper (m : Turn) (cutoff : Moment) : Prop where
  sound : m.next.store.Sound
  composes : ∀ p ∈ m.lostComposes, p.isExpired cutoff = true
  clones : ∀ c ∈ m.lostClones, ∃ p, m.trial.met.parent? c = some p ∧ p.isExpired cutoff = true

theorem proper (hmet : m.trial.met.Sound) (hm : m.IsAt cutoff) : m.Proper cutoff where
  sound := Trial.sound_execute hmet _
  composes _ h := isExpired_of_mem_lostComposes hm h
  clones _ h := parent_of_mem_lostClones hmet.unique hm h

end Turn

namespace Trial

/-- The number of clones that statements remove one after the other. -/
def clonesLost (t : Trial) (sts : List Statement) : Nat :=
  ((t.history sts).flatMap Turn.lostClones).length

def composesLost (t : Trial) (sts : List Statement) : Nat :=
  ((t.history sts).flatMap Turn.lostComposes).length

theorem store_next_of_not_writes {t : Trial} {sts : List Statement} (h : ∀ st ∈ sts, st.writes = false) {m : Turn}
    (hm : m ∈ t.history sts) : m.next.store = m.trial.met := by
  induction sts generalizing t with
  | nil => simp [history] at hm
  | cons st rest ih =>
    rcases List.mem_cons.mp hm with rfl | hm
    · exact store_execute_of_not_writes (h st List.mem_cons_self)
    · exact ih (fun st' hst' => h st' (List.mem_cons_of_mem _ hst')) hm

theorem clonesLost_append_singleton (t : Trial) (sts : List Statement) (st : Statement) :
    t.clonesLost (sts ++ [st]) = t.clonesLost sts + (Turn.mk (t.after sts) st).lostClones.length := by
  simp [clonesLost, history_append_singleton]

theorem composesLost_append_singleton (t : Trial) (sts : List Statement) (st : Statement) :
    t.composesLost (sts ++ [st]) = t.composesLost sts + (Turn.mk (t.after sts) st).lostComposes.length := by
  simp [composesLost, history_append_singleton]

end Trial
end Retention.Database
