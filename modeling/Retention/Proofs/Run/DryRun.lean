import Retention.Database.Script
import Retention.Proofs.Database.History
import Retention.Proofs.Run.Escape
import Retention.Proofs.Run.Statements

/-! # Dry runs

A dry run only asks: it executes no statement that writes, so the store is as it was, whatever goes
wrong on the way. Each count is what the answer to its own query gives, whatever became of the
statements around it, and one record tells of both.
-/

namespace Retention.Run

open Calendar Database Job

variable {σ : Type} {conn : Connection σ} {cutoff : Moment} {s t u : Session σ}

section Asking

/-- The count that the answer to a query gives: the integer of its value, or none if the query failed. -/
inductive Found : Except Fault Reply → Option Int → Prop
  | value {reply v n} (scalar : reply.scalar = .ok v) (whole : v.toWhole = .ok n) : Found (.ok reply) (some n)
  | failed {f} : Found (.error f) none
  | unread {reply f} (scalar : reply.scalar = .error f) : Found (.ok reply) none

/-- The statement was executed, whatever it was answered, and the tally is as it was. -/
structure Session.Asked (conn : Connection σ) (st : Statement) (c : Scope) (s t : Session σ) : Prop where
  world : t.world = (conn.execute st s.world).2
  tally : t.tally = s.tally
  within : s.Within c t

theorem asked_statistics (conn : Connection σ) (s : Session σ) :
    s.Asked conn .stats .statistics (statistics conn s).2 := by
  let P : Session σ → Prop := fun t => t.world = (conn.execute .stats s.world).2 ∧ t.tally = s.tally
  have hP : Steady P := ⟨fun _ h => h, fun _ h => h⟩
  have hquery : Triple (· = s) (Job.execute conn .stats) (fun _ => P) (fun _ => P) := by
    apply Triple.execute
    · rintro t r w rfl hr
      exact ⟨(congrArg Prod.snd hr).symm, rfl⟩
    · rintro t e w rfl hr
      exact ⟨(congrArg Prod.snd hr).symm, rfl⟩
  have hstatistics : Triple (· = s) (statistics conn) (fun _ => P) (fun _ => P) :=
    triple_statistics hP (triple_report hP hquery) (fun _ _ _ h => h) fun _ _ _ h => h
  obtain ⟨hworld, htally⟩ := (hstatistics s rfl).snd
  exact ⟨hworld, htally, within_statistics.run s⟩

/-- What counting comes to: a number, the failure of its query, or a value that is no number. -/
theorem countExpired_cases (conn : Connection σ) (table : Table) (cutoff : Moment) (s : Session σ) :
    let t := (Job.execute conn (table.count cutoff) s).2
    let answer := (conn.execute (table.count cutoff) s.world).1
    (∃ n, countExpired conn table cutoff s = (.ok n, t) ∧ Found answer (some n)) ∨
      (∃ f, countExpired conn table cutoff s = (.error (wrapCount table f), t) ∧ Found answer none) ∨
      ∃ m, countExpired conn table cutoff s = (.error (.outside (.mishap m)), t) := by
  intro t answer
  have hexecute : Job.execute conn (table.count cutoff) s = (answer, t) := by
    cases hanswer : answer <;> simp [t, Job.execute, show (conn.execute _ s.world).1 = _ from hanswer]
  have hquery : ∀ {r}, (Job.execute conn (table.count cutoff) >>= scalar) s = (r, t) →
      ((Job.execute conn (table.count cutoff) >>= scalar).mapFault (wrapCount table)) s =
        (r.mapError (wrapCount table), t) := by
    intro r hr
    rw [Job.mapFault, hr]
  cases hanswer : answer with
  | error f =>
    rw [hanswer] at hexecute
    exact .inr (.inl ⟨f, bind_of_error (hquery (bind_of_error hexecute)), .failed⟩)
  | ok reply =>
    rw [hanswer] at hexecute
    cases hscalar : reply.scalar with
    | error f =>
      have hx := hquery ((bind_of_ok hexecute).trans (by rw [scalar, hscalar]; rfl))
      exact .inr (.inl ⟨f, bind_of_error hx, .unread hscalar⟩)
    | ok v =>
      have hx := hquery (r := .ok v) ((bind_of_ok hexecute).trans (by rw [scalar, hscalar]; rfl))
      cases hv : v.toWhole with
      | ok n => exact .inl ⟨n, (bind_of_ok hx).trans (by rw [hv]; rfl), .value hscalar hv⟩
      | error e => exact .inr (.inr ⟨e.toMishap, (bind_of_ok hx).trans (by rw [hv]; rfl)⟩)

theorem tally_execute (conn : Connection σ) (st : Statement) (s : Session σ) :
    (Job.execute conn st s).2.tally = s.tally := by
  unfold Job.execute
  cases h : (conn.execute st s.world).1 <;> simp [h, Session.note]

theorem expectedCount_asked {table : Table} {n : Option Int} (h : expectedCount conn table cutoff s = (.ok n, t)) :
    Found (conn.execute (table.count cutoff) s.world).1 n ∧
      s.Asked conn (table.count cutoff) (.count table cutoff) t := by
  have hwithin : s.Within (.count table cutoff) (expectedCount conn table cutoff s).2 := (within_expectedCount table).run s
  have hworld : (Job.execute conn (table.count cutoff) s).2.world = _ := world_execute (table.count cutoff) s
  have htally := tally_execute conn (table.count cutoff) s
  rw [h] at hwithin
  unfold expectedCount at h
  rcases countExpired_cases conn table cutoff s with ⟨n', hx, hfound⟩ | ⟨f, hx, hfound⟩ | ⟨m, hx⟩
  · rw [hx] at h
    cases h
    exact ⟨hfound, hworld, htally, hwithin⟩
  · rw [hx] at h
    split at h
    · rename_i hr
      cases hr
    · rename_i hr
      cases h
      obtain ⟨-, rfl⟩ := Prod.mk.inj hr
      exact ⟨hfound, hworld, htally, hwithin⟩
    · cases h
  · rw [hx] at h
    cases h

end Asking

section Counting

/-- A count that is not known is null. -/
def expiredRecord (cutoff : Moment) (clones composes : Option Int) : Log.Record :=
  ⟨.info, "dry_run.expired", [("cutoff", .text cutoff.toText), ("expired_composes", composes.elim .null .int),
    ("expired_clones", clones.elim .null .int)]⟩

theorem reportExpired_eq (cutoff : Moment) (clones composes : Option Int) :
    reportExpired (σ := σ) cutoff clones composes = (do
      Job.count fun t => { t with expiredComposes := composes }
      Job.log (expiredRecord cutoff clones composes)) := by
  cases clones <;> cases composes <;> rfl

/-- From the world on both tables were counted, one after the other, and since the earlier session one
record has told of it. -/
structure Counted (conn : Connection σ) (cutoff : Moment) (w : σ) (s t : Session σ) : Prop where
  clones : Found (conn.execute (.countClones cutoff) w).1 t.tally.expiredClones
  composes : Found (conn.execute (.countComposes cutoff) (conn.after w [.countClones cutoff])).1 t.tally.expiredComposes
  journal : ∃ es, t.journal = s.journal ++ es ∧
    named "dry_run.expired" (logged es) = [expiredRecord cutoff t.tally.expiredClones t.tally.expiredComposes]

theorem named_counting {es : List Event} (h : ∀ e ∈ es, (Scope.counting cutoff).Covers e) :
    named "dry_run.expired" (logged es) = [] :=
  Scope.named_eq_nil h (by simp [Scope.counting]) (by decide)

theorem Counted.frame {w : σ} {s' t' : Session σ} (h : Counted conn cutoff w s t) (hs : s'.Within (.counting cutoff) s)
    (ht : t.Within (.counting cutoff) t') (hclones : t'.tally.expiredClones = t.tally.expiredClones)
    (hcomposes : t'.tally.expiredComposes = t.tally.expiredComposes) : Counted conn cutoff w s' t' := by
  obtain ⟨es, hj, hes⟩ := h.journal
  obtain ⟨-, before, hbefore, hcovers⟩ := hs
  obtain ⟨-, after, hafter, hcovers'⟩ := ht
  refine ⟨hclones ▸ h.clones, hcomposes ▸ h.composes, before ++ (es ++ after), ?_, ?_⟩
  · rw [hafter, hj, hbefore, List.append_assoc, List.append_assoc]
  · simp only [logged_append, named_append, hes, named_counting hcovers, named_counting hcovers', hclones, hcomposes,
      List.nil_append, List.append_nil]

theorem dryRunReport_counted (h : dryRunReport conn cutoff s = (.ok (), t)) : Counted conn cutoff s.world s t := by
  rw [dryRunReport_eq] at h
  obtain ⟨clones, s₁, h₁, h⟩ := bind_eq_ok_iff.mp h
  obtain ⟨_, s₂, h₂, hrest⟩ := bind_eq_ok_iff.mp h
  obtain ⟨composes, s₃, h₃, hreport⟩ := bind_eq_ok_iff.mp hrest
  rw [reportExpired_eq] at hreport
  obtain rfl : { s₁ with tally := { s₁.tally with expiredClones := clones } } = s₂ := (Prod.mk.inj h₂).2
  obtain rfl : ({ s₃ with tally := { s₃.tally with expiredComposes := composes } } : Session σ).log
      (expiredRecord cutoff clones composes) = t := (Prod.mk.inj hreport).2
  obtain ⟨hclones, hasked⟩ := expectedCount_asked h₁
  obtain ⟨hcomposes, hasked'⟩ := expectedCount_asked h₃
  obtain ⟨-, es, hj, hes⟩ := hasked.within.mono (Scope.count_le_counting .clones cutoff)
  obtain ⟨-, es', hj', hes'⟩ := hasked'.within.mono (Scope.count_le_counting .composes cutoff)
  have hworld : s₁.world = (conn.execute (.countClones cutoff) s.world).2 := hasked.world
  have hexpired : s₃.tally.expiredClones = clones := by
    rw [hasked'.tally]
  refine ⟨?_, ?_, es ++ (es' ++ [.logged (expiredRecord cutoff clones composes)]), ?_, ?_⟩
  · exact hexpired ▸ hclones
  · rw [Connection.after_cons, Connection.after_nil, ← hworld]
    exact hcomposes
  · simp [Session.log, Session.note, hj', hj]
  · rw [logged_append, logged_append, named_append, named_append, named_counting hes, named_counting hes']
    show _ = [expiredRecord cutoff s₃.tally.expiredClones composes]
    rw [hexpired]
    rfl

/-- A dry run that comes to the end of its work has counted what its first statistics left. -/
theorem maintain_counted {dryRun : Value} (hdry : dryRun.holds = true) (h : maintain conn dryRun cutoff s = (.ok (), t)) :
    Counted conn cutoff (conn.after s.world [.stats]) s t := by
  rw [maintain_eq] at h
  obtain ⟨_, s₁, h₁, h₁'⟩ := bind_eq_ok_iff.mp h
  obtain ⟨before, s₂, h₂, h₂'⟩ := bind_eq_ok_iff.mp h₁'
  obtain ⟨_, s₃, h₃, h₃'⟩ := bind_eq_ok_iff.mp h₂'
  rw [undertake, if_pos hdry] at h₃'
  obtain ⟨_, s₄, h₄, h₄'⟩ := bind_eq_ok_iff.mp h₃'
  obtain ⟨_, s₅, h₅, h₅'⟩ := bind_eq_ok_iff.mp h₄'
  obtain ⟨_, s₆, h₆, h₆'⟩ := bind_eq_ok_iff.mp h₅'
  obtain ⟨after, s₇, h₇, h₇'⟩ := bind_eq_ok_iff.mp h₆'
  have hbefore := asked_statistics conn s₁
  have hafter := asked_statistics conn s₆
  rw [h₂] at hbefore
  rw [h₇] at hafter
  obtain rfl : s.enter .statsBefore = s₁ := (Prod.mk.inj h₁).2
  obtain rfl : { s₂ with tally := { s₂.tally with statsBefore := before } } = s₃ := (Prod.mk.inj h₃).2
  obtain rfl : Session.enter _ .dryRunReport = s₄ := (Prod.mk.inj h₄).2
  obtain rfl : s₅.enter .statsAfter = s₆ := (Prod.mk.inj h₆).2
  obtain rfl : { s₇ with tally := { s₇.tally with statsAfter := after } } = t := (Prod.mk.inj h₇').2
  have hworld : s₂.world = conn.after s.world [.stats] := hbefore.world
  have htally : s₇.tally = s₅.tally := hafter.tally
  rw [← hworld]
  have hle := Scope.statistics_le_counting cutoff
  refine (dryRunReport_counted h₅).frame ?_ ?_ ?_ ?_
  · have hstart : s.Within (.counting cutoff) (s.enter .statsBefore) := (Session.Within.refl _ s).enter _ List.mem_cons_self
    exact ((hstart.trans (hbefore.within.mono hle)).tally _).enter .dryRunReport (by simp [Scope.counting])
  · have hend : s₅.Within (.counting cutoff) (s₅.enter .statsAfter) :=
      (Session.Within.refl _ s₅).enter _ (by simp [Scope.counting])
    exact (hend.trans (hafter.within.mono hle)).tally _
  · show s₇.tally.expiredClones = _
    rw [htally]
  · show s₇.tally.expiredComposes = _
    rw [htally]

end Counting

theorem store_after_of_not_writes (dialect : String) {t : Trial} (ht : t.IsAlone) {sts : List Statement}
    (h : ∀ st ∈ sts, st.writes = false) : ((Trial.connection dialect).after t sts).store = t.store := by
  induction sts generalizing t with
  | nil => rfl
  | cons st rest ih =>
    have hstore : (t.execute st).2.store = t.store :=
      (Trial.store_execute_of_not_writes (h st List.mem_cons_self)).trans ht.met
    exact (ih (ht.execute st) fun st' hst' => h st' (List.mem_cons_of_mem _ hst')).trans hstore

section Runs

variable {faults : StepFaults} {plan : Plan} {now : Moment}

theorem tally_finish (cutoff : Moment) (dryRun : Value) (r : Except Fault Unit) (t : Session σ) :
    (finish cutoff dryRun (r, t)).2.tally = t.tally := by
  rcases r with (cause | e) | _
  · rfl
  · rfl
  · rfl

def clonesCount : String :=
  "SELECT COUNT(*) FROM clones WHERE compose_id IN ( SELECT job_id FROM composes WHERE created_at < :cutoff )"

def composesCount : String :=
  "SELECT COUNT(*) FROM composes WHERE created_at < :cutoff"

/-- The texts of the queries that a dry run may ask. -/
def queries : List String :=
  [statsQuery.1, clonesCount, composesCount]

theorem sql_mem_queries {st : Statement} (h : st.writes = false) : st.sql ∈ queries := by
  have hstats : Statement.stats.sql = statsQuery.1 := congrArg Prod.fst sent_stats
  cases st with
  | stats => exact hstats ▸ .head _
  | countClones c => exact .tail _ (.head _)
  | countComposes c => exact .tail _ (.tail _ (.head _))
  | _ => cases h

theorem map_sent_counting (cutoff : Moment) :
    [Statement.stats, .countClones cutoff, .countComposes cutoff, .stats].map sent =
      [statsQuery, (clonesCount, some cutoff), (composesCount, some cutoff), statsQuery] := by
  simp only [List.map_cons, List.map_nil, sent_stats]
  rfl

theorem not_writes_of_dry (conn : Connection σ) (faults : StepFaults) (now : Moment) (s : Session σ)
    (hdry : plan.dryRun.holds = true) :
    ∃ es, (run ⟨conn, openConnection faults⟩ plan now s).2.journal = s.journal ++ es ∧
      (run ⟨conn, openConnection faults⟩ plan now s).2.world = conn.after s.world (executed es) ∧
      ∀ st ∈ executed es, st.writes = false := by
  obtain ⟨es, hj, hw⟩ := leads_run conn faults plan now s
  refine ⟨es, hj, hw, ?_⟩
  cases hc : Calendar.cutoff now plan.months with
  | error e =>
    rw [run_of_error hc, journal_starting] at hj
    obtain rfl := List.append_cancel_left hj
    exact fun st hst => absurd hst List.not_mem_nil
  | ok cutoff =>
    obtain ⟨-, fs, hfs, hcovers⟩ := run_within conn faults s hc
    obtain rfl := List.append_cancel_left (hj.symm.trans hfs)
    intro st hst
    rw [executed_append] at hst
    have hmem : st ∈ (Scope.work conn.dialect plan.dryRun cutoff).statements := Scope.mem_statements hcovers hst
    rw [Scope.work, if_pos hdry] at hmem
    simp only [Scope.dry, Scope.counting, List.mem_cons, List.not_mem_nil, or_false] at hmem
    rcases hmem with rfl | rfl | rfl <;> rfl

/-- The course of a dry run over a connection that is set up, by the events that it adds: what it asks, what
it finds, and that it is done unless the connection is left with a fault. -/
structure DryCourse (conn : Connection σ) (faults : StepFaults) (dryRun : Value) (cutoff : Moment) (w : σ)
    (es : List Event) (r : Ending × Session σ) : Prop where
  statements : executed es = [.stats, .countClones cutoff, .countComposes cutoff, .stats]
  sent : (executed es).map Run.sent =
    [statsQuery, (clonesCount, some cutoff), (composesCount, some cutoff), statsQuery]
  clones : Found (conn.execute (.countClones cutoff) (conn.after w [.stats])).1 r.2.tally.expiredClones
  composes : Found (conn.execute (.countComposes cutoff) (conn.after w [.stats, .countClones cutoff])).1
    r.2.tally.expiredComposes
  totals : r.2.tally.HasSums .zero
  record : named "dry_run.expired" (logged es) =
    [expiredRecord cutoff r.2.tally.expiredClones r.2.tally.expiredComposes]
  done : faults.close = none → faults.dispose = none →
    r.1 = .done ⟨cutoff, dryRun, r.2.tally⟩ ∧ r.2.stage = .done

theorem maintain_dry {dryRun : Value} (hdry : dryRun.holds = true) (hs : s.IsAt .init .zero)
    (h : s.Plain conn (maintain conn dryRun cutoff s).2) :
    ∃ t es, maintain conn dryRun cutoff s = (.ok (), t) ∧ t.journal = s.journal ++ es ∧ t.tally.HasSums .zero ∧
      executed es = [.stats, .countClones cutoff, .countComposes cutoff, .stats] ∧
      Counted conn cutoff (conn.after s.world [.stats]) s t ∧
      named "dry_run.expired" (logged es) = [expiredRecord cutoff t.tally.expiredClones t.tally.expiredComposes] := by
  obtain ⟨u, hreaches⟩ := maintain_reaches hs h
  have hdoes := hreaches.does (undertake_dry hdry hreaches.isAt hreaches.plain)
  have hok : maintain conn dryRun cutoff s = (.ok (), (maintain conn dryRun cutoff s).2) := Prod.ext hdoes.result rfl
  have hcounted := maintain_counted hdry hok
  obtain ⟨es, hj, htells⟩ := hdoes.journal
  obtain ⟨fs, hfs, hrecord⟩ := hcounted.journal
  obtain rfl := List.append_cancel_left (hj.symm.trans hfs)
  exact ⟨_, es, hok, hj, hdoes.isAt.sums, htells.executed, hcounted, hrecord⟩

/-- What a run adds around its work executes nothing and tells of no expired rows. -/
theorem events_around {url : Text.Loose} {fs : List Event} (dryRun : Value) (result : Except Fault Unit)
    (hj : t.journal = (entered url (starting s)).journal ++ fs) :
    ∃ es, (finish cutoff dryRun (result, left t)).2.journal = s.journal ++ es ∧ executed es = executed fs ∧
      named "dry_run.expired" (logged es) = named "dry_run.expired" (logged fs) := by
  obtain ⟨last, hlast, hquiet, hnamed⟩ := events_finish cutoff dryRun result (left t)
  let opening : List Event := [.logged (stateRecord .init), .clockRead] ++
    [Step.url url, .create, .connect, .isolation isolation, .options].map .stepped
  let leaving : List Event := [Step.close, .dispose].map .stepped
  refine ⟨opening ++ (fs ++ (leaving ++ last)), ?_, ?_, ?_⟩
  · simp only [hlast, journal_left, hj, journal_entered, journal_starting, opening, leaving, List.append_assoc]
  · simp only [executed_append, hquiet, List.append_nil]
    exact List.append_nil _
  · simp only [logged_append, named_append, hnamed _ (by decide : "dry_run.expired" ∉ _), List.append_nil]
    exact List.append_nil _

theorem dryCourse_of_plain (hdry : plan.dryRun.holds = true) (hc : Calendar.cutoff now plan.months = .ok cutoff)
    (hcreate : faults.create = none) (hconnect : faults.connect = none) (hoptions : faults.options = none)
    (h : s.Plain conn (run ⟨conn, openConnection faults⟩ plan now s).2) {es : List Event}
    (hes : (run ⟨conn, openConnection faults⟩ plan now s).2.journal = s.journal ++ es) :
    DryCourse conn faults plan.dryRun cutoff s.world es (run ⟨conn, openConnection faults⟩ plan now s) := by
  let u : Session σ := entered plan.url (starting s)
  let work : Except Fault Unit × Session σ := maintain conn plan.dryRun cutoff u
  let result : Except Fault Unit := faults.leave work.1
  have hr : run ⟨conn, openConnection faults⟩ plan now s = finish cutoff plan.dryRun (result, left work.2) :=
    run_entered hc hcreate hconnect hoptions
  rw [hr] at h hes ⊢
  have hu : s.Leads conn u := (leads_starting s).trans (leads_entered ..)
  have hwork : u.Leads conn work.2 := (enduring_leads.keeps_maintain cutoff _).apply (.refl u)
  have hend : work.2.Leads conn (finish cutoff plan.dryRun (result, left work.2)).2 := (leads_left _).trans (leads_finish ..)
  have hplain : u.Plain conn work.2 := ((h.split hu (hwork.trans hend)).2.split hwork hend).1
  obtain ⟨t, fs, hok, hj, hsums, hsts, hcounted, hrecord⟩ := maintain_dry hdry ⟨rfl, rfl, rfl, rfl⟩ hplain
  have ht : work.2 = t := congrArg Prod.snd hok
  obtain ⟨es', hes', hexecuted, hnamed⟩ := events_around plan.dryRun result (ht ▸ hj)
  obtain rfl := List.append_cancel_left (hes'.symm.trans hes)
  have htally : (finish cutoff plan.dryRun (result, left work.2)).2.tally = t.tally :=
    (tally_finish ..).trans (show work.2.tally = t.tally by rw [ht])
  constructor
  · exact hexecuted.trans hsts
  · rw [hexecuted.trans hsts, map_sent_counting]
  · rw [htally]
    exact hcounted.clones
  · rw [htally]
    exact hcounted.composes
  · rw [htally]
    exact hsums
  · rw [htally]
    exact hnamed.trans hrecord
  · intro hclose hdispose
    have hresult : result = .ok () := by
      simp only [result, faults.leave_of_none hclose hdispose, show work.1 = .ok () from congrArg Prod.fst hok]
    rw [hresult]
    exact ⟨rfl, rfl⟩

/-- A dry run only asks, whatever goes wrong: each statement leaves the store that it meets, and if nobody
else adds rows the store stays as it was. If it is answered plainly, it finds what each of its two queries gives
and is done. -/
theorem run_dry (conn : Connection σ) (faults : StepFaults) (now : Moment) (s : Session σ)
    (hdry : plan.dryRun.holds = true) :
    (let r := run ⟨conn, openConnection faults⟩ plan now s
      ∃ es, r.2.journal = s.journal ++ es ∧ r.2.world = conn.after s.world (executed es) ∧
        (∀ st ∈ executed es, st.sql ∈ queries) ∧
        ∀ cutoff, Calendar.cutoff now plan.months = .ok cutoff →
          faults.create = none → faults.connect = none → faults.options = none → s.Plain conn r.2 →
          DryCourse conn faults plan.dryRun cutoff s.world es r) ∧
      ∀ dialect (t : Session Trial),
        let u := (run ⟨Trial.connection dialect, openConnection faults⟩ plan now t).2
        (∀ es, u.journal = t.journal ++ es → ∀ m ∈ t.world.history (executed es), m.next.store = m.trial.met) ∧
          (t.world.IsAlone → u.world.store = t.world.store) := by
  constructor
  · obtain ⟨es, hj, hw, hquiet⟩ := not_writes_of_dry conn faults now s hdry
    exact ⟨es, hj, hw, fun st hst => sql_mem_queries (hquiet st hst), fun cutoff hc hcreate hconnect hoptions hplain =>
      dryCourse_of_plain hdry hc hcreate hconnect hoptions hplain hj⟩
  · intro dialect t u
    obtain ⟨es, hj, hw, hquiet⟩ := not_writes_of_dry (Trial.connection dialect) faults now t hdry
    refine ⟨fun fs hfs m hm => ?_, fun ht => ?_⟩
    · obtain rfl := List.append_cancel_left (hj.symm.trans hfs)
      exact Trial.store_next_of_not_writes hquiet hm
    · exact (congrArg Trial.store hw).trans (store_after_of_not_writes dialect ht hquiet)

/-- The statistics and the count of clones fail, and three composes are counted. -/
def halfAnswered : Script :=
  [.error (.outside (.driver ⟨.programming, none, "no such view"⟩)),
    .error (.outside (.driver ⟨.operational, none, "database is locked"⟩)), .ok (.holding 3), .ok .empty]

/-- An old compose with its clone, in a trial of which the first statement breaks off. -/
def broken : Trial where
  store := ⟨some [⟨some "a", some "1969-10-31"⟩], some [some "a"], true⟩
  upcoming := [⟨[], some (.ofMishap .assertion "cursor")⟩]
  stats := []
  isReadOnly := false

theorem run_halfAnswered :
    let plan : Plan := ⟨"", .bool true, .int 0⟩
    let r := run ⟨Script.connection "sqlite", openConnection .none⟩ plan (.ofEpochMicros 0) (.start halfAnswered)
    (∃ es, DryCourse (Script.connection "sqlite") .none (.bool true) (.ofEpochMicros 0) halfAnswered es r) ∧
      r.2.tally.expiredClones = none ∧ r.2.tally.expiredComposes = some 3 ∧
      (run ⟨Trial.connection "sqlite", openConnection .none⟩ plan (.ofEpochMicros 0) (.start broken)).2.world.store =
        broken.store := by
  intro plan r
  have hsts : executed r.2.journal = [.stats, .countClones (.ofEpochMicros 0), .countComposes (.ofEpochMicros 0),
      .stats] := by
    decide +kernel
  have hplain : (Session.start halfAnswered).Plain (Script.connection "sqlite") r.2 := by
    apply Session.Plain.of_executed hsts
    exact ⟨⟨_, rfl⟩, ⟨_, rfl⟩, .inl ⟨3, rfl⟩, ⟨rfl, fun f hf => nomatch hf⟩, trivial⟩
  have halone : broken.IsAlone := by
    intro slot hslot
    rw [List.mem_singleton.mp hslot]
  obtain ⟨⟨es, -, -, -, hcourse⟩, hstore⟩ := run_dry (Script.connection "sqlite") .none (.ofEpochMicros 0)
    (.start halfAnswered) (show plan.dryRun.holds = true from rfl)
  exact ⟨⟨es, hcourse _ (by decide +kernel) rfl rfl rfl hplain⟩, by decide +kernel, by decide +kernel,
    (hstore "sqlite" (.start broken)).2 halone⟩

end Runs
end Retention.Run
