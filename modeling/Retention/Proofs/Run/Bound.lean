import Mathlib.Data.Set.Card
import Retention.Proofs.Database.Renewal
import Retention.Proofs.Run.Course

/-! # How long a run is

Others may insert rows between any two statements of a run. Each pass after the first deletes what
arrived since the composes of the pass before it were deleted, unless it is the last. So the passes
that were started, and one more while expired composes are there, are covered by the renewals of the
store and an allowance for where the run is.
-/

namespace Retention.Run

open Calendar Database Job

/-- Where a live run is: before a pass, within one, or behind the last. -/
inductive Place where
  | before
  | within
  | behind

/-- The passes that no renewal has to account for. -/
def Place.allowance : Place → Nat
  | .before => 1
  | .within | .behind => 2

def Place.after (rows : Rows) : Place :=
  if rows.isZero then .behind else .before

/-- Since a trial and the statements before it, a session has executed statements. Its passes are
covered, every pass has its four statements, with room for some more, and behind the last pass no
compose was left to delete. -/
structure Paced (start : Trial) (past : List Statement) (cutoff : Moment) (place : Place) (room : Nat)
    (sts : List Statement) (s : Session Trial) : Prop where
  executed : Run.executed s.journal = past ++ sts
  world : s.world = start.after sts
  passes : s.tally.iterations + min 1 (s.world.store.composesDue cutoff) ≤
    start.renewals cutoff sts + place.allowance
  statements : sts.length + room ≤ 2 + 4 * s.tally.iterations
  emptied : place = .behind → start.Emptied cutoff sts

def Pace (start : Trial) (past : List Statement) (cutoff : Moment) (place : Place) (room : Nat)
    (s : Session Trial) : Prop :=
  ∃ sts, Paced start past cutoff place room sts s

section Paced

variable {start : Trial} {past sts : List Statement} {cutoff : Moment} {place : Place} {room : Nat}
  {s : Session Trial} {st : Statement}

theorem Paced.note {e : Event} (he : e.statement? = none) (h : Paced start past cutoff place room sts s) :
    Paced start past cutoff place room sts (s.note e) where
  executed := by
    rw [← h.executed]
    simp [Session.note, Run.executed, he]
  world := h.world
  passes := h.passes
  statements := h.statements
  emptied := h.emptied

theorem steady_pace : Steady (Pace start past cutoff place room) :=
  .exists_left fun _ => ⟨Paced.note, fun _ h => ⟨h.executed, h.world, h.passes, h.statements, h.emptied⟩⟩

theorem Pace.tally {t : Tally} (ht : t.iterations = s.tally.iterations) (h : Pace start past cutoff place room s) :
    Pace start past cutoff place room { s with tally := t } := by
  obtain ⟨sts, h⟩ := h
  exact ⟨sts, h.executed, h.world, ht ▸ h.passes, ht ▸ h.statements, h.emptied⟩

theorem Pace.stop (h : Pace start past cutoff place room s) : Pace start past cutoff .within 0 s := by
  obtain ⟨sts, h⟩ := h
  refine ⟨sts, h.executed, h.world, h.passes.trans ?_, by have := h.statements; omega, by simp⟩
  cases place <;> simp [Place.allowance]

theorem Pace.room_le {room' : Nat} (hle : room' ≤ room) (h : Pace start past cutoff place room s) :
    Pace start past cutoff place room' s := by
  obtain ⟨sts, h⟩ := h
  exact ⟨sts, h.executed, h.world, h.passes, by have := h.statements; omega, h.emptied⟩

/-- What a statement adds to expired composes, a renewal accounts for. -/
theorem Paced.execute (hst : place = .behind → st.cutoff? = none)
    (h : Paced start past cutoff place (room + 1) sts s) :
    Paced start past cutoff place room (sts ++ [st])
      { s.note (.executed st) with world := (s.world.execute st).2 } where
  executed := by
    rw [← List.append_assoc, ← h.executed]
    exact executed_append s.journal [.executed st]
  world := by rw [Trial.after_append_singleton, h.world]
  passes := by
    have hle : (s.world.execute st).2.store.composesDue cutoff ≤ s.world.met.composesDue cutoff :=
      s.world.composesDue_execute_le st
    have hpasses := h.passes
    rw [Trial.renewals_append_singleton, ← h.world]
    simp only [Turn.renews, decide_eq_true_eq]
    show s.tally.iterations + _ ≤ _
    split <;> omega
  statements := by
    have := h.statements
    simp only [List.length_append, List.length_singleton]
    show _ ≤ 2 + 4 * s.tally.iterations
    omega
  emptied hp := (h.emptied hp).append_singleton (hst hp)

/-- A deletion of composes leaves none that expired, so the next pass needs another renewal. -/
theorem Paced.deleteComposes {r : Reply} (hr : (s.world.execute (.deleteComposes cutoff)).1 = .ok r)
    (h : Paced start past cutoff .within (room + 1) sts s) :
    ∃ rows, r.affected = .ok rows ∧ Paced start past cutoff (.after rows) room (sts ++ [.deleteComposes cutoff])
      { s.note (.executed (.deleteComposes cutoff)) with world := (s.world.execute (.deleteComposes cutoff)).2 } := by
  obtain ⟨rfl, hnone⟩ := Trial.execute_deleteComposes_ok hr
  have hx : Paced start past cutoff .within room (sts ++ [.deleteComposes cutoff]) _ := h.execute (by simp)
  refine ⟨_, Reply.affected_counting _, hx.executed, hx.world, ?_, hx.statements, ?_⟩
  · have hpasses := h.passes
    rw [Trial.renewals_append_singleton, ← h.world]
    simp only [hnone, Turn.renews, decide_eq_true_eq, Place.after, Rows.isZero, beq_iff_eq]
    show s.tally.iterations + _ ≤ _
    -- Either the statement renews, or what it deletes was due before, and the pass to come was covered.
    split <;> split <;> simp only [Place.allowance] at hpasses ⊢ <;> omega
  · intro hbehind
    have hdue : s.world.met.composesDue cutoff = 0 := by
      by_contra hne
      simp [Place.after, Rows.isZero, hne] at hbehind
    have hlost := (Turn.lostComposes_deleteComposes (m := ⟨s.world, _⟩) rfl hr).1.length_eq
    rw [← List.countP_eq_length_filter, ← Store.composesDue, hdue] at hlost
    exact ⟨sts, [], rfl, h.world ▸ List.length_eq_zero_iff.mp hlost, by simp⟩

end Paced

section Rules

variable {dialect : String} {start : Trial} {past : List Statement} {cutoff : Moment} {place : Place} {room : Nat}

theorem triple_execute_pace {st : Statement} (hst : place = .behind → st.cutoff? = none) :
    Triple (Pace start past cutoff place (room + 1)) (Job.execute (Trial.connection dialect) st)
      (fun r s => (∃ t, (Trial.execute st t).1 = .ok r) ∧ Pace start past cutoff place room s)
      (fun _ => Pace start past cutoff place room) := by
  apply Steady.triple_execute fun _ => steady_pace.and_left
  · rintro s r ⟨sts, h⟩ hr
    exact ⟨⟨_, hr⟩, _, h.execute hst⟩
  · rintro s e ⟨sts, h⟩ -
    exact ⟨_, h.execute hst⟩

theorem triple_statistics_pace :
    Triple (Pace start past cutoff place (room + 1)) (statistics (Trial.connection dialect))
      (fun _ => Pace start past cutoff place room) (fun _ => Pace start past cutoff .within 0) := by
  apply triple_statistics steady_pace (triple_report steady_pace _) (fun _ _ _ h => h) fun _ _ _ h => h.stop
  exact (triple_execute_pace fun _ => rfl).conseq (fun _ h => h) (fun _ _ h => h.2) fun _ _ h => h

theorem triple_deleteClones_pace :
    Triple (Pace start past cutoff .within (room + 1)) (deleteExpired (Trial.connection dialect) .clones cutoff)
      (fun _ => Pace start past cutoff .within room) (fun _ => Pace start past cutoff .within 0) := by
  apply triple_deleteExpired fun _ => steady_pace
  apply (triple_execute_pace fun h => by simp at h).conseq (fun _ h => h) _ fun _ _ h => h.stop
  rintro r s ⟨⟨t, hr⟩, h⟩
  obtain ⟨-, rfl⟩ := Turn.lostClones_deleteClones (m := ⟨t, _⟩) rfl hr
  exact ⟨_, Reply.affected_counting _, h⟩

theorem triple_deleteComposes_pace :
    Triple (Pace start past cutoff .within (room + 1)) (deleteExpired (Trial.connection dialect) .composes cutoff)
      (fun rows => Pace start past cutoff (.after rows) room) (fun _ => Pace start past cutoff .within 0) := by
  apply triple_deleteExpired fun _ => steady_pace
  apply Steady.triple_execute fun _ => .exists_left fun _ => steady_pace.and_left
  · rintro s r ⟨sts, h⟩ hr
    obtain ⟨rows, hrows, h⟩ := h.deleteComposes hr
    exact ⟨rows, hrows, _, h⟩
  · rintro s e ⟨sts, h⟩ -
    exact Pace.stop ⟨_, h.execute (by simp)⟩

theorem Tally.iterations_addClones {t t' : Tally} {rows : Rows} (h : t.addClones rows = .ok t') :
    t'.iterations = t.iterations := by
  unfold Tally.addClones at h
  cases hadd : addRows t.clonesDeleted rows <;> simp [hadd, Except.map] at h
  rw [← h]

theorem Tally.iterations_addComposes {t t' : Tally} {rows : Rows} (h : t.addComposes rows = .ok t') :
    t'.iterations = t.iterations := by
  unfold Tally.addComposes at h
  cases hadd : addRows t.composesDeleted rows <;> simp [hadd, Except.map] at h
  rw [← h]

theorem triple_recount_pace {f : Tally → Except Mishap Tally}
    (hf : ∀ t t', f t = .ok t' → t'.iterations = t.iterations) :
    Triple (Pace start past cutoff place room) (Job.recount f) (fun _ => Pace start past cutoff place room)
      (fun _ => Pace start past cutoff .within 0) :=
  .recount (fun _ _ h ht => h.tally (hf _ _ ht)) fun _ _ h _ => h.stop

theorem triple_reclaim_pace :
    Triple (Pace start past cutoff place (room + 2)) (reclaim (Trial.connection dialect))
      (fun _ => Pace start past cutoff place room) (fun _ => Pace start past cutoff .within 0) := by
  apply Triple.bind _ fun _ => steady_pace.triple_log _
  apply Triple.mapFault
  have hlength : (reclaimStatements dialect).length ≤ 2 := by
    unfold reclaimStatements
    split <;> simp
  apply (triple_executeAll (Q := fun rest => Pace start past cutoff place (room + rest.length)) _).conseq
    (fun s h => h.room_le (by simpa [Trial.connection] using hlength)) (fun _ _ h => h) fun _ _ h => h
  intro st hst rest
  exact (triple_execute_pace fun _ => cutoff?_of_mem_reclaimStatements hst).conseq (fun _ h => h) (fun _ _ h => h.2) fun _ _ h => h.stop

theorem triple_pass_pace :
    Triple (Pace start past cutoff .before 1) (pass (Trial.connection dialect) cutoff)
      (fun rows => Pace start past cutoff (.after rows.2) 1) (fun _ => Pace start past cutoff .within 0) := by
  apply Triple.bind (Q := fun _ => Pace start past cutoff .within 5)
  · rintro s ⟨sts, h⟩
    refine ⟨sts, h.executed, h.world, ?_, ?_, by simp⟩
    · have := h.passes
      simp only [Place.allowance] at this ⊢
      omega
    · have := h.statements
      show _ ≤ 2 + 4 * (s.tally.iterations + 1)
      omega
  intro _
  apply Triple.bind triple_deleteClones_pace
  intro clones
  apply Triple.bind (triple_recount_pace fun _ _ => Tally.iterations_addClones)
  intro _
  apply Triple.bind triple_deleteComposes_pace
  intro composes
  apply Triple.bind (triple_recount_pace fun _ _ => Tally.iterations_addComposes)
  intro _
  apply Triple.bind triple_reclaim_pace
  exact fun _ => .done fun s h => h

theorem triple_maintain_pace {dryRun : Value} (hlive : dryRun.holds = false) :
    Triple (Pace start past cutoff .before 2) (maintain (Trial.connection dialect) dryRun cutoff)
      (fun _ => Pace start past cutoff .behind 0) (fun _ => Pace start past cutoff .within 0) := by
  apply triple_maintain_live hlive steady_pace steady_pace steady_pace (fun _ _ h => h.tally rfl)
    (fun _ _ h => h.tally rfl) triple_statistics_pace triple_statistics_pace
  apply triple_deleteLoop
  apply triple_pass_pace.conseq (fun _ h => h) _ fun _ _ h => h
  intro rows t h
  cases hzero : rows.2.isZero with
  | true => simpa [Place.after, hzero] using h
  | false => exact steady_pace.log _ (by simpa [Place.after, hzero] using h)

end Rules

section Run

variable (dialect : String) (faults : StepFaults) {plan : Plan} {now cutoff : Moment} {slots : ℕ → Slot}

/-- A run has executed the statements. The passes that it started are at most two more than the
renewals of the store, it had four statements for each and two others, and if it is done, its last
pass found no compose. -/
structure Bounded (cutoff : Moment) (s : Session Trial) (r : Ending × Session Trial) (sts : List Statement) :
    Prop where
  executed : Run.executed r.2.journal = Run.executed s.journal ++ sts
  world : r.2.world = s.world.after sts
  passes : r.2.tally.iterations ≤ 2 + s.world.renewals cutoff sts
  statements : sts.length ≤ 2 + 4 * r.2.tally.iterations
  emptied : ∀ summary, r.1 = .done summary → s.world.Emptied cutoff sts

theorem Paced.bounded {start s : Session Trial} {place : Place} {sts : List Statement} {ending : Ending}
    (h : Paced start.world (Run.executed start.journal) cutoff place 0 sts s)
    (hplace : ∀ summary, ending = .done summary → place = .behind) : Bounded cutoff start (ending, s) sts where
  executed := h.executed
  world := h.world
  passes := by
    have hpasses := h.passes
    have hallowance : place.allowance ≤ 2 := by cases place <;> simp [Place.allowance]
    show s.tally.iterations ≤ _
    omega
  statements := h.statements
  emptied summary hs := h.emptied (hplace summary hs)

theorem bounded_run (hplan : plan.Deletes now cutoff) (s : Session Trial) :
    ∃ sts, Bounded cutoff s (run ⟨Trial.connection dialect, openConnection faults⟩ plan now s) sts := by
  have hstart : Pace s.world (executed s.journal) cutoff .before 2 (starting s) := by
    apply steady_pace.note rfl
    apply steady_pace.enter
    refine ⟨[], (List.append_nil _).symm, rfl, ?_, Nat.le_refl _, by simp⟩
    show 0 + _ ≤ 0 + 1
    omega
  have hbody : Triple (Pace s.world (executed s.journal) cutoff .before 2)
      (openConnection faults plan.url (maintain (Trial.connection dialect) plan.dryRun cutoff))
      (fun _ => Pace s.world (executed s.journal) cutoff .behind 0)
      (fun _ => Pace s.world (executed s.journal) cutoff .within 0) :=
    triple_openConnection_of_le steady_pace steady_pace steady_pace (fun _ h => h.stop) (fun _ h => h.stop)
      (triple_maintain_pace hplan.live)
  rcases run_cases ⟨Trial.connection dialect, openConnection faults⟩ hplan.cutoff hstart hbody with
    ⟨t, h, hr⟩ | ⟨e, t, h, hr⟩ | ⟨cause, t, h, hr⟩
  · obtain ⟨sts, h⟩ := steady_pace.log (doneRecord ⟨cutoff, plan.dryRun, t.tally⟩) (steady_pace.enter .done h)
    exact ⟨sts, hr ▸ h.bounded fun _ _ => rfl⟩
  · obtain ⟨sts, h⟩ := steady_pace.log (abortedRecord e t.stage t.tally) (steady_pace.enter .aborted h)
    exact ⟨sts, hr ▸ h.bounded fun _ hd => by simp at hd⟩
  · obtain ⟨sts, h⟩ := h
    exact ⟨sts, hr ▸ h.bounded fun _ hd => by simp at hd⟩

/-- However far an endless schedule is laid out, its slots that renew are as many as they are. -/
theorem countP_renews_le (hfin : {i | (slots i).renews cutoff = true}.Finite) (n : ℕ) :
    ((List.range n).map slots).countP (Slot.renews cutoff) ≤ {i | (slots i).renews cutoff = true}.ncard := by
  rw [List.countP_map, List.countP_eq_length_filter, Set.ncard_eq_toFinset_card _ hfin,
    ← List.toFinset_card_of_nodup (List.nodup_range.filter _)]
  apply Finset.card_le_card
  intro i hi
  simpa using (List.mem_filter.mp (List.mem_toFinset.mp hi)).2

/-- Every live run is bounded by the renewals of its store, and by two passes without any. If of an
endless schedule finitely many slots bring expired composes, a run gets to see no more slots than
these allow, however far the schedule is laid out; so it ends. -/
theorem run_bounded (hplan : plan.Deletes now cutoff) :
    (∀ s, ∃ sts, Bounded cutoff s (run ⟨Trial.connection dialect, openConnection faults⟩ plan now s) sts) ∧
    ∀ slots : ℕ → Slot, {i | (slots i).renews cutoff = true}.Finite → ∀ n, ∀ s : Session Trial,
      s.world.upcoming = (List.range n).map slots →
      let r := run ⟨Trial.connection dialect, openConnection faults⟩ plan now s
      let g := {i | (slots i).renews cutoff = true}.ncard
      r.2.tally.iterations ≤ 2 + g ∧
        ∃ sts, executed r.2.journal = executed s.journal ++ sts ∧ sts.length ≤ 10 + 4 * g := by
  refine ⟨bounded_run dialect faults hplan, ?_⟩
  intro slots hfin n s hs r g
  obtain ⟨sts, h⟩ := bounded_run dialect faults hplan s
  have hrenewals : s.world.renewals cutoff sts ≤ g :=
    Nat.le_trans (s.world.renewals_le sts) (hs ▸ countP_renews_le hfin n)
  have hpasses : r.2.tally.iterations ≤ 2 + g := Nat.le_trans h.passes (Nat.add_le_add_left hrenewals 2)
  refine ⟨hpasses, sts, h.executed, ?_⟩
  calc sts.length ≤ 2 + 4 * r.2.tally.iterations := h.statements
    _ ≤ 10 + 4 * g := by omega

def renewal (i : ℕ) : Slot :=
  if i = 3 then ⟨[.compose ⟨some "b", some "1969-12-31"⟩], none⟩ else .quiet

/-- A store with an expired compose, and a schedule by which another one arrives. -/
def renewed (n : ℕ) : Trial where
  store := ⟨some [⟨some "a", some "1969-10-31"⟩], some [some "a"], true⟩
  upcoming := (List.range n).map renewal
  stats := []
  isReadOnly := false

theorem run_renewed :
    (∃ sts, Bounded (.ofEpochMicros 0) (.start (renewed 4))
      (run ⟨Trial.connection "sqlite", openConnection .none⟩ ⟨"", .bool false, .int 0⟩ (.ofEpochMicros 0)
        (.start (renewed 4))) sts) ∧
    ∀ n,
      let r := run ⟨Trial.connection "sqlite", openConnection .none⟩ ⟨"", .bool false, .int 0⟩ (.ofEpochMicros 0)
        (.start (renewed n))
      let g := 1
      r.2.tally.iterations ≤ 2 + g ∧
        ∃ sts, executed r.2.journal = executed (Session.start (renewed n)).journal ++ sts ∧
          sts.length ≤ 10 + 4 * g := by
  have hslots : {i | (renewal i).renews (.ofEpochMicros 0) = true} = {3} := by
    ext i
    by_cases hi : i = 3
    · simp only [renewal, hi, if_true, Set.mem_ofPred_eq, Set.mem_singleton_iff, iff_true]
      decide +kernel
    · simp [renewal, hi, Slot.renews, Slot.quiet]
  obtain ⟨hbounded, hschedule⟩ := run_bounded "sqlite" .none (Plan.deletes_now "" (.ofEpochMicros 0))
  have h := hschedule renewal (hslots ▸ Set.finite_singleton 3)
  rw [hslots, Set.ncard_singleton] at h
  exact ⟨hbounded _, fun n => h n (.start (renewed n)) rfl⟩

end Run
end Retention.Run
