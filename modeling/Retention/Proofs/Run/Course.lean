import Retention.Proofs.Calendar.MonthIndex
import Retention.Proofs.Run.Triple

/-! # The course of a run

Rules for the parts of a run: the report on statistics, the loop of passes, the work over an open
connection, the opening of the connection, and the end of the run. Statistics that are observed at
all, well or badly, never stop a run.
-/

namespace Retention.Run

open Calendar Database Job

variable {σ : Type} {conn : Connection σ} {cutoff : Moment} {P M : Session σ → Prop}
  {E E' : Fault → Session σ → Prop}

def IsDriverFault (f : Fault) : Prop :=
  ∃ d, f = .outside (.driver d)

theorem IsDriverFault.leaving {f : Fault} (h : IsDriverFault f) (st : Step) : st.leaving f = f := by
  obtain ⟨d, rfl⟩ := h
  rfl

def badRow? (row : Value) : Option Fault :=
  match TableStat.ofRow row with
  | .ok _ => none
  | .error bad => some (.outside (.mishap bad.toMishap))

/-- What cuts rows short: the first that cannot be read, else the fault behind them. -/
def obstacle? (rows : List Value) (fault : Option Fault) : Option Fault :=
  (rows.findSome? badRow?).or fault

/-- The statistics query is answered by rows, or by a driver error, and rows are cut short by driver
errors, by values that are no numbers or by numbers of the wrong type only. -/
def Observed : Except Fault Reply → Prop
  | .ok reply => reply.closeFault = none ∧
      ∀ f, obstacle? reply.rows reply.fetchFault = some f → ∃ cause, f = .outside cause ∧ isUnreadable cause = true
  | .error f => ∃ e, f = .outside (.driver e)

def IsStatsFault (f : Fault) : Prop :=
  ∃ message cause, f = .job ⟨.stats, message, cause⟩

theorem readRows_triple (hP : Steady P) (rows : List Value) (fault : Option Fault) :
    Triple P (readRows .none rows fault) (fun _ s => P s ∧ obstacle? rows fault = none)
      (fun e s => P s ∧ obstacle? rows fault = some e) := by
  induction rows with
  | nil =>
    apply Triple.bind (Q := fun _ s => P s ∧ fault = none)
    · exact .failIf (fun hf s hs => ⟨hs, hf⟩) fun e hf s hs => ⟨hs, hf⟩
    · exact fun _ => .done fun s hs => hs
  | cons row rest ih =>
    cases hrow : TableStat.ofRow row with
    | error bad =>
      have ho : obstacle? (row :: rest) fault = some (.outside (.mishap bad.toMishap)) := by
        simp [obstacle?, badRow?, hrow]
      rw [ho]
      apply Triple.bind (Q := fun _ _ => False)
      · rw [hrow]
        exact .fail fun s hs => ⟨hs, rfl⟩
      · exact fun _ _ h => h.elim
    | ok stat =>
      have ho : obstacle? (row :: rest) fault = obstacle? rest fault := by
        simp [obstacle?, badRow?, hrow]
      rw [ho]
      apply Triple.bind (Q := fun _ => P)
      · rw [hrow]
        exact .done fun s hs => hs
      · intro _
        exact .bind (hP.triple_log _) fun _ => .bind ih fun _ => .done fun s hs => hs

theorem keeps_readRows (hP : Steady P) (rows : List Value) (fault : Option Fault) :
    Keeps P (readRows .none rows fault) :=
  (readRows_triple hP rows fault).conseq (fun _ h => h) (fun _ _ h => h.1) fun _ _ h => h.1

theorem triple_report (hP : Steady P) (hx : Triple M (Job.execute conn .stats) (fun _ => P) (fun _ => P)) :
    Triple M (report conn) (fun _ => P) (fun _ => P) :=
  .bind (.mapFault hx) fun reply => Keeps.always (.mapFault (keeps_readRows hP _ _)) (hP.keeps_close reply)

theorem keeps_report (hP : Steady P) (hx : Keeps P (Job.execute conn .stats)) :
    Keeps P (report conn) :=
  triple_report hP hx

/-- Whatever is observed of the statistics, the report fails with the error for statistics at worst.
-/
theorem report_triple (hP : Steady P) (hx : Triple M (Job.execute conn .stats) (fun r s => P s ∧ Observed (.ok r))
    (fun e s => P s ∧ Observed (.error e))) :
    Triple M (report conn) (fun _ => P) (fun e s => IsStatsFault e ∧ P s) := by
  apply Triple.bind
  · apply Triple.mapFault
    apply hx.conseq (fun _ h => h) (fun _ _ h => h)
    rintro e s ⟨hs, d, rfl⟩
    exact ⟨⟨_, _, rfl⟩, hs⟩
  · intro reply s hs
    obtain ⟨hs, hclose, hrows⟩ := hs
    revert s
    apply Triple.always (M := fun _ => P) (F := fun e s => IsStatsFault e ∧ P s)
    · apply Triple.mapFault
      apply (readRows_triple hP _ _).conseq (fun _ h => h) (fun _ _ h => h.1)
      rintro e s ⟨hs, ho⟩
      obtain ⟨cause, rfl, hc⟩ := hrows e ho
      exact ⟨⟨_, _, by rw [wrapUnreadable, if_pos hc]⟩, hs⟩
    · intro _
      apply Triple.bind (hP.triple_note rfl)
      exact fun _ => .failIf (fun _ _ hs => hs) fun e he => by simp [hclose] at he
    · intro e
      have hE : Steady fun s => IsStatsFault e ∧ P s := hP.and_left
      apply Triple.bind (hE.triple_note rfl)
      exact fun _ => .failIf (fun _ _ hs => hs) fun e he => by simp [hclose] at he

theorem triple_statistics (hP : Steady P) (hx : Triple M (report conn) (fun _ => P) E)
    (hs : ∀ e s, IsStatsFault e → E e s → P s) (he : ∀ e s, ¬ IsStatsFault e → E e s → E' e s) :
    Triple M (statistics conn) (fun _ => P) E' := by
  intro s h
  have h := hx s h
  unfold Run.statistics
  split
  · rename_i message cause t hr
    rw [hr] at h
    exact hP.log _ (hs _ _ ⟨message, cause, rfl⟩ h)
  · rename_i hr
    rcases hr' : report conn s with ⟨e | l, t⟩
    · rw [hr'] at h
      apply he e t _ h
      rintro ⟨message, cause, rfl⟩
      exact hr message cause t hr'
    · rw [hr'] at h
      exact h

theorem keeps_statistics (hP : Steady P) (hx : Keeps P (Job.execute conn .stats)) :
    Keeps P (statistics conn) :=
  triple_statistics hP (keeps_report hP hx) (fun _ _ _ h => h) fun _ _ _ h => h

theorem statistics_of_observed {s : Session σ} (h : Observed (conn.execute .stats s.world).1) :
    ∃ stats, (statistics conn s).1 = .ok stats := by
  let P : Session σ → Prop := fun _ => True
  have hP : Steady P := ⟨fun _ _ => trivial, fun _ _ => trivial⟩
  have hquery : Triple (· = s) (Job.execute conn .stats) (fun r t => P t ∧ Observed (.ok r))
      (fun e t => P t ∧ Observed (.error e)) := by
    apply Triple.execute
    · rintro t r w rfl hr
      rw [hr] at h
      exact ⟨trivial, h⟩
    · rintro t e w rfl hr
      rw [hr] at h
      exact ⟨trivial, h⟩
  have hstatistics : Triple (· = s) (statistics conn) (fun _ => P) (fun _ _ => False) :=
    triple_statistics hP (report_triple hP hquery) (fun _ _ _ _ => trivial) fun _ _ hnone he => hnone he.1
  have hends := hstatistics s rfl
  rcases hr : statistics conn s with ⟨e | stats, t⟩
  · rw [hr] at hends
    exact False.elim hends
  · exact ⟨stats, rfl⟩

/-- What holds before the first pass and between passes holds after the last. -/
theorem triple_deleteLoop (h : Triple P (pass conn cutoff)
    (fun rows t => if rows.2.isZero = true then M t else P (t.log (passRecord t.tally.iterations rows.1 rows.2))) E) :
    Triple P (deleteLoop conn cutoff) (fun _ => M) E := by
  intro s
  -- The budget of the connection bounds the passes that are left.
  fun_induction Run.deleteLoop conn cutoff s with
  | case1 s e t hp => intro hs; have := h s hs; rwa [hp] at this
  | case2 s clones composes t hp hc =>
    intro hs
    have := h s hs
    rw [hp] at this
    simpa [Ends, hc] using this
  | case3 s clones composes t hp hc ih =>
    intro hs
    have := h s hs
    rw [hp] at this
    exact ih (by simpa [Ends, hc] using this)

section Totals

variable {Q : Session σ → Prop} {k : Nat}

theorem Tally.addClones_whole {t : Tally} {n : Int} (h : t.clonesDeleted = .whole n) (k : Nat) :
    t.addClones (.number k) = .ok { t with clonesDeleted := .whole (n + k) } := by
  rw [Tally.addClones, addRows, h, Rows.quantity, Quantity.add_whole]
  rfl

theorem Tally.addComposes_whole {t : Tally} {n : Int} (h : t.composesDeleted = .whole n) (k : Nat) :
    t.addComposes (.number k) = .ok { t with composesDeleted := .whole (n + k) } := by
  rw [Tally.addComposes, addRows, h, Rows.quantity, Quantity.add_whole]
  rfl

theorem triple_recount_of_ok {f : Tally → Except Mishap Tally}
    (h : ∀ s, P s → ∃ t, f s.tally = .ok t ∧ Q { s with tally := t }) :
    Triple P (Job.recount f) (fun _ => Q) E := by
  apply Triple.recount
  · intro s tally hs ht
    obtain ⟨t, hf, hq⟩ := h s hs
    exact Except.ok.inj (hf.symm.trans ht) ▸ hq
  · intro s m hs ht
    obtain ⟨t, hf, -⟩ := h s hs
    cases hf.symm.trans ht

theorem triple_addClones (h : ∀ s, P s → ∃ n, s.tally.clonesDeleted = .whole n ∧
    Q { s with tally := { s.tally with clonesDeleted := .whole (n + k) } }) :
    Triple P (Job.recount (Tally.addClones (.number k))) (fun _ => Q) E := by
  apply triple_recount_of_ok
  intro s hs
  obtain ⟨n, hn, hq⟩ := h s hs
  exact ⟨_, Tally.addClones_whole hn k, hq⟩

theorem triple_addComposes (h : ∀ s, P s → ∃ n, s.tally.composesDeleted = .whole n ∧
    Q { s with tally := { s.tally with composesDeleted := .whole (n + k) } }) :
    Triple P (Job.recount (Tally.addComposes (.number k))) (fun _ => Q) E := by
  apply triple_recount_of_ok
  intro s hs
  obtain ⟨n, hn, hq⟩ := h s hs
  exact ⟨_, Tally.addComposes_whole hn k, hq⟩

end Totals

section Work

variable {dryRun : Value} {I N : Session σ → Prop}

theorem cutoff?_of_mem_reclaimStatements {dialect : String} {st : Statement} (h : st ∈ reclaimStatements dialect) :
    st.cutoff? = none := by
  have hcutoff : ∀ st ∈ reclaimStatements dialect, st.cutoff? = none := by
    unfold reclaimStatements
    split <;> simp [Statement.cutoff?]
  exact hcutoff st h

theorem triple_deleteExpired {table : Table} {Q : Rows → Session σ → Prop} (hQ : ∀ rows, Steady (Q rows))
    (hx : Triple P (Job.execute conn (table.deletion cutoff)) (fun r s => ∃ rows, r.affected = .ok rows ∧ Q rows s)
      (fun e => E (wrapDeletion table e))) :
    Triple P (deleteExpired conn table cutoff) Q E := by
  apply Triple.bind (.mapFault hx)
  intro reply
  apply Triple.bind (Q := Q)
  · apply Triple.ofExcept
    · rintro rows hrows s ⟨rows', hrows', h⟩
      exact Except.ok.inj (hrows'.symm.trans hrows) ▸ h
    · rintro m hm s ⟨rows, hrows, -⟩
      cases hrows.symm.trans hm
  · exact fun rows => .bind ((hQ rows).triple_log _) fun _ => .done fun _ h => h

theorem triple_executeAll {Q : List Statement → Session σ → Prop} {sts : List Statement}
    (hx : ∀ st ∈ sts, ∀ rest, Triple (Q (st :: rest)) (Job.execute conn st) (fun _ => Q rest) E) :
    Triple (Q sts) (executeAll conn sts) (fun _ => Q []) E := by
  induction sts with
  | nil => exact .done fun _ h => h
  | cons st rest ih =>
    apply Triple.bind (hx st List.mem_cons_self rest)
    exact fun _ => ih fun st' hst' => hx st' (List.mem_cons_of_mem _ hst')

/-- The work of a live run leads from the assertion before the loop to the one after it, with the
statistics at either end. -/
theorem triple_maintain_live (hlive : dryRun.holds = false) (hI : Steady I) (hP : Steady P) (hM : Steady M)
    (hbefore : ∀ s l, P s → P { s with tally := { s.tally with statsBefore := l } })
    (hafter : ∀ s l, N s → N { s with tally := { s.tally with statsAfter := l } })
    (hsI : Triple I (statistics conn) (fun _ => P) E) (hsM : Triple M (statistics conn) (fun _ => N) E)
    (hloop : Triple P (deleteLoop conn cutoff) (fun _ => M) E) :
    Triple I (maintain conn dryRun cutoff) (fun _ => N) E := by
  unfold maintain
  apply Triple.bind (hI.triple_enter _)
  intro _
  apply Triple.bind hsI
  intro before
  apply Triple.bind (Q := fun _ => P) (.change fun s hs => hbefore s before hs)
  intro _
  rw [if_neg (by simp [hlive])]
  apply Triple.bind (hP.triple_enter _)
  intro _
  apply Triple.bind hloop
  intro _
  apply Triple.bind (hM.triple_enter _)
  intro _
  exact .bind hsM fun after => .change fun s hs => hafter s after hs

end Work

/-- Only creating the engine and connecting may fail, with one of the faults. -/
structure StepFaults.Within (F : Fault → Prop) (faults : StepFaults) : Prop where
  create : ∀ f, faults.create = some f → F f
  connect : ∀ f, faults.connect = some f → F f
  options : faults.options = .none
  close : faults.close = .none
  dispose : faults.dispose = .none

theorem StepFaults.within_none (F : Fault → Prop) : StepFaults.none.Within F :=
  ⟨fun f h => by simp [none] at h, fun f h => by simp [none] at h, rfl, rfl, rfl⟩

section Opening

variable {faults : StepFaults} {url : Text.Loose} {body : Job σ Unit}

/-- Whatever fails, what holds at both ends of the body holds in the end. -/
theorem triple_openConnection_of_le {N : Session σ → Prop} (hP : Steady P) (hM : Steady M) (hN : Steady N)
    (hPN : ∀ s, P s → N s) (hMN : ∀ s, M s → N s) (hbody : Triple P body (fun _ => M) (fun _ => N)) :
    Triple P (openConnection faults url body) (fun _ => M) (fun _ => N) := by
  have hstep : ∀ {I : Session σ → Prop} (st : Step) (fault : Option Fault), Steady I → (∀ s, I s → N s) →
      Triple I (step st fault) (fun _ => I) (fun _ => N) := fun st fault hI h => hI.triple_step fun _ _ => h
  apply Triple.bind (hP.triple_note rfl)
  intro _
  apply Triple.bind (.mapFault (hstep _ _ hP hPN))
  intro _
  apply Triple.always _ (fun _ => hstep _ _ hM hMN) fun _ => hN.keeps_step _ _
  apply Triple.bind (.mapFault (hstep _ _ hP hPN))
  intro _
  apply Triple.always _ (fun _ => hstep _ _ hM hMN) fun _ => hN.keeps_step _ _
  exact .bind (hP.triple_note rfl) fun _ => .bind (hstep _ _ hP hPN) fun _ => hbody

theorem keeps_openConnection (hP : Steady P) (hbody : Keeps P body) :
    Keeps P (openConnection faults url body) :=
  triple_openConnection_of_le hP hP hP (fun _ h => h) (fun _ h => h) hbody

theorem triple_openConnection (hP : Steady P) (hM : Steady M) (hE : ∀ e, Steady (E e))
    (hoptions : faults.options = none) (hclose : faults.close = none) (hdispose : faults.dispose = none)
    (hcreate : ∀ e, faults.create = some e → ∀ s, P s →
      E (wrapDriver .connection "Invalid database URL: " (Step.create.leaving e)) s)
    (hconnect : ∀ e, faults.connect = some e → ∀ s, P s →
      E (wrapDriver .connection "Error connecting to database: " (Step.connect.leaving e)) s)
    (hbody : Triple P body (fun _ => M) E) : Triple P (openConnection faults url body) (fun _ => M) E := by
  have hquiet : ∀ {I : Session σ → Prop} {F : Fault → Session σ → Prop} (st : Step), Steady I →
      Triple I (step st none) (fun _ => I) F := fun st hI => hI.triple_step fun _ h => by simp at h
  apply Triple.bind (hP.triple_note rfl)
  intro _
  apply Triple.bind (Q := fun _ => P) (.mapFault (hP.triple_step hcreate))
  intro _
  rw [hdispose]
  apply Triple.always (M := fun _ => M) (F := E) _ (fun _ => hquiet _ hM) fun e => hquiet _ (hE e)
  apply Triple.bind (Q := fun _ => P) (.mapFault (hP.triple_step hconnect))
  intro _
  rw [hclose]
  apply Triple.always (M := fun _ => M) (F := E) _ (fun _ => hquiet _ hM) fun e => hquiet _ (hE e)
  apply Triple.bind (hP.triple_note rfl)
  intro _
  rw [hoptions]
  exact .bind (hquiet _ hP) fun _ => hbody

end Opening

section Ending

variable {plan : Plan} {now : Moment} {s : Session σ}

/-- The summary that a run returns, or that it attaches to the error that aborts it. -/
def Ending.summary? : Ending → Option Summary
  | .done summary => some summary
  | .aborted _ summary => some summary
  | .crashed _ => none

/-- The plan is for a live run, and at this moment its cutoff is this one. -/
structure Plan.Deletes (plan : Plan) (now cutoff : Moment) : Prop where
  live : plan.dryRun.holds = false
  cutoff : Calendar.cutoff now plan.months = .ok cutoff

theorem Plan.deletes_now (url : Text.Loose) (now : Moment) : Plan.Deletes ⟨url, .bool false, .int 0⟩ now now :=
  ⟨rfl, cutoff_zero now⟩

def starting (s : Session σ) : Session σ :=
  ({ s with tally := .zero }.enter .init).note .clockRead

def finish (cutoff : Moment) (dryRun : Value) : Except Fault Unit × Session σ → Ending × Session σ
  | (.ok (), t) => (.done ⟨cutoff, dryRun, t.tally⟩, (t.enter .done).log (doneRecord ⟨cutoff, dryRun, t.tally⟩))
  | (.error (.job e), t) =>
    (.aborted e ⟨cutoff, dryRun, t.tally⟩, (t.enter .aborted).log (abortedRecord e t.stage t.tally))
  | (.error (.outside cause), t) => (.crashed cause, t)

theorem run_eq_finish (site : Site σ) (hc : Calendar.cutoff now plan.months = .ok cutoff) :
    run site plan now s =
      finish cutoff plan.dryRun (site.connect plan.url (maintain site.conn plan.dryRun cutoff) (starting s)) := by
  unfold run
  simp only [hc]
  rfl

/-- How a run ends is decided by how the work over its connection ends. -/
theorem run_cases (site : Site σ) (hc : Calendar.cutoff now plan.months = .ok cutoff) (hs : P (starting s))
    (hx : Triple P (site.connect plan.url (maintain site.conn plan.dryRun cutoff)) (fun _ => M) E) :
    (∃ t, M t ∧ run site plan now s = (.done ⟨cutoff, plan.dryRun, t.tally⟩,
      (t.enter .done).log (doneRecord ⟨cutoff, plan.dryRun, t.tally⟩))) ∨
    (∃ e t, E (.job e) t ∧ run site plan now s = (.aborted e ⟨cutoff, plan.dryRun, t.tally⟩,
      (t.enter .aborted).log (abortedRecord e t.stage t.tally))) ∨
    ∃ cause t, E (.outside cause) t ∧ run site plan now s = (.crashed cause, t) := by
  have h := hx _ hs
  rw [run_eq_finish site hc]
  generalize site.connect plan.url (maintain site.conn plan.dryRun cutoff) (starting s) = r at h ⊢
  obtain ⟨(cause | e) | _, t⟩ := r
  · exact .inr (.inr ⟨cause, t, h, rfl⟩)
  · exact .inr (.inl ⟨e, t, h, rfl⟩)
  · exact .inl ⟨t, h, rfl⟩

end Ending
end Retention.Run
