import Retention.Proofs.Run.Escape
import Retention.Proofs.Run.Reading

/-! # Infinite counters

An infinite counter is no whole number, just as text that is no numeral; but its error is of a class
of its own, which a report lets pass. If nothing else stops the reading before it, one such counter
ends the run before its work has begun. Every other row costs a run its statistics at worst.
-/

namespace Retention

section First

variable {α β : Type} {f : α → Option β} {a : α} {l : List α} {b : β}

theorem findSome?_cons_eq_some_iff :
    (a :: l).findSome? f = some b ↔ f a = some b ∨ f a = none ∧ l.findSome? f = some b := by
  cases h : f a <;> simp [h]

theorem findSome?_eq_some_iff_find? :
    l.findSome? f = some b ↔ ∃ a, l.find? (fun a => (f a).isSome) = some a ∧ f a = some b := by
  induction l with
  | nil => simp
  | cons a l ih => cases h : f a <;> simp [h, ih]

end First

def Value.isInfinite : Value → Bool
  | .float (.infinite _) | .decimal (.infinite _) => true
  | _ => false

theorem Unwhole.kind_ofFlaw (literal : String) (flaw : Text.Numeral.Flaw) : (ofFlaw literal flaw).kind = .value := by
  cases flaw <;> rfl

/-- Of all values, infinite numbers alone overflow. -/
theorem Value.kind_of_toWhole {v : Value} {why : Unwhole} (h : v.toWhole = .error why) :
    why.kind = .overflow ↔ v.isInfinite = true := by
  have hnumeral : ∀ {x : Except Text.Numeral.Flaw Int} {literal : String},
      x.mapError (Unwhole.ofFlaw literal) = .error why → why.kind = .value := by
    intro x literal hx
    cases x with
    | ok => cases hx
    | error flaw =>
      cases hx
      exact Unwhole.kind_ofFlaw literal flaw
  cases v with
  | float x => cases x <;> cases h <;> simp [isInfinite, Unwhole.kind]
  | decimal d => cases d <;> cases h <;> simp [isInfinite, Unwhole.kind]
  | text s => simp [isInfinite, hnumeral h]
  | bytes bs => simp [isInfinite, hnumeral h]
  | _ => cases h <;> simp [isInfinite, Unwhole.kind]

namespace Run

open Calendar Database Job

section Rows

variable {v row : Value} {f : Fault} {reason : BadStatRow}

def badCounter? (v : Value) : Option BadStatRow :=
  match v.toWhole with
  | .ok _ => none
  | .error why => some (.counter why)

theorem badCounter?_eq_none_iff : badCounter? v = none ↔ ∃ n, v.toWhole = .ok n := by
  unfold badCounter?
  cases v.toWhole <;> simp

theorem badCounter?_eq_some_iff : badCounter? v = some reason ↔ v.toWhole.mapError .counter = .error reason := by
  unfold badCounter?
  cases v.toWhole <;> simp

theorem kind_of_badCounter? (h : badCounter? v = some reason) :
    reason.toMishap.kind = .overflow ↔ v.isInfinite = true := by
  unfold badCounter? at h
  cases hv : v.toWhole with
  | ok n => simp [hv] at h
  | error why =>
    obtain rfl : .counter why = reason := by simpa [hv] using h
    exact Value.kind_of_toWhole hv

theorem counter_bind_eq_error_iff {α : Type} {x : Except Unwhole Int} {f : Int → Except BadStatRow α} :
    (x.mapError BadStatRow.counter >>= f) = .error reason ↔
      x.mapError .counter = .error reason ∨ ∃ n, x = .ok n ∧ f n = .error reason := by
  cases x <;> simp [bind, Except.bind]

/-- If no column is missing, the first counter that cannot be read tells why the row has no statistics. -/
theorem ofColumns_eq_error_iff {cols : List Value} (h : cols.length = 15) :
    TableStat.ofColumns cols = .error reason ↔ ((cols.drop 2).take 9).findSome? badCounter? = some reason := by
  match cols, h with
  | [_, _, _, _, _, _, _, _, _, _, _, _, _, _, _], _ =>
    simp only [TableStat.ofColumns, counter_bind_eq_error_iff, List.drop, List.take, findSome?_cons_eq_some_iff,
      badCounter?_eq_some_iff, badCounter?_eq_none_iff, List.findSome?_nil, pure, Except.pure, reduceCtorEq,
      exists_and_right, exists_false, and_false, or_false]

theorem ofColumns_of_ne {cols : List Value} (h : cols.length ≠ 15) :
    TableStat.ofColumns cols = .error (.columns cols.length) := by
  unfold TableStat.ofColumns
  split
  · simp at h
  · rfl

def counters? (row : Value) : Option (List Value) :=
  match columns row with
  | .ok cols => if cols.length = 15 then some ((cols.drop 2).take 9) else none
  | .error _ => none

/-- Of the counters of the row, the first that cannot be read is infinite. -/
def overflows (row : Value) : Bool :=
  (counters? row).any fun counters => (counters.find? fun v => (badCounter? v).isSome).any Value.isInfinite

/-- Of the rows, the first that cannot be read overflows. -/
def spoiled (rows : List Value) : Bool :=
  (rows.find? fun row => (badRow? row).isSome).any overflows

theorem kind_of_columns (h : columns row = .error reason) : reason.toMishap.kind = .type := by
  unfold columns at h
  split at h <;> cases h
  rfl

theorem kind_of_ofRow (h : TableStat.ofRow row = .error reason) :
    reason.toMishap.kind = .overflow ↔ overflows row = true := by
  unfold TableStat.ofRow at h
  unfold overflows counters?
  cases hcolumns : columns row with
  | error e =>
    rw [hcolumns] at h
    obtain rfl : e = reason := Except.error.inj h
    simp [kind_of_columns hcolumns]
  | ok cols =>
    rw [hcolumns] at h
    replace h : TableStat.ofColumns cols = .error reason := h
    by_cases hcols : cols.length = 15
    · obtain ⟨v, hv, hreason⟩ := findSome?_eq_some_iff_find?.mp ((ofColumns_eq_error_iff hcols).mp h)
      simp [hcols, hv, kind_of_badCounter? hreason]
    · rw [ofColumns_of_ne hcols] at h
      cases h
      simp [hcols, BadStatRow.toMishap]

theorem BadStatRow.isUnreadable_or_overflow (reason : BadStatRow) :
    isUnreadable (.mishap reason.toMishap) = true ∨ reason.toMishap.kind = .overflow := by
  rcases reason with _ | _ | (_ | _ | _ | _ | _ | _ | _) <;>
    simp [isUnreadable, toMishap, Unwhole.toMishap, Unwhole.kind]

theorem badRow?_eq_some_iff : badRow? row = some f ↔
    ∃ reason, TableStat.ofRow row = .error reason ∧ .outside (.mishap reason.toMishap) = f := by
  unfold badRow?
  cases TableStat.ofRow row <;> simp

end Rows

section Report

variable {σ : Type} {conn : Connection σ} {s : Session σ} {reply : Reply} {rows : List Value} {fault : Option Fault}
  {stats : List TableStat} {stop : Option Fault} {m : Mishap}

/-- A reply that the driver alone cuts short is spoiled, unless whatever goes wrong with it is observed. -/
theorem observed_or_spoiled (hclose : reply.closeFault = none)
    (hcut : ∀ f, reply.fetchFault = some f → IsDriverFault f) :
    (spoiled reply.rows = false ∧ Observed (.ok reply)) ∨ spoiled reply.rows = true ∧
      ∃ m, m.kind = .overflow ∧ obstacle? reply.rows reply.fetchFault = some (.outside (.mishap m)) := by
  simp only [Observed, obstacle?, spoiled]
  cases hbad : reply.rows.findSome? badRow? with
  | none =>
    have hnone : (reply.rows.find? fun row => (badRow? row).isSome) = none := by
      simpa [List.find?_eq_none] using List.findSome?_eq_none_iff.mp hbad
    refine .inl ⟨by rw [hnone]; rfl, hclose, fun f hf => ?_⟩
    obtain ⟨d, rfl⟩ := hcut f hf
    exact ⟨_, rfl, rfl⟩
  | some f =>
    obtain ⟨row, hrow, hf⟩ := findSome?_eq_some_iff_find?.mp hbad
    obtain ⟨reason, hreason, rfl⟩ := badRow?_eq_some_iff.mp hf
    rw [hrow, Option.any_some]
    by_cases hkind : reason.toMishap.kind = .overflow
    · exact .inr ⟨(kind_of_ofRow hreason).mp hkind, _, hkind, rfl⟩
    · refine .inl ⟨?_, hclose, ?_⟩
      · exact Bool.eq_false_iff.mpr fun h => hkind ((kind_of_ofRow hreason).mpr h)
      · intro f hf
        obtain rfl := Option.some.inj hf
        exact ⟨_, rfl, reason.isUnreadable_or_overflow.resolve_right hkind⟩

theorem ReadTo.stop_eq (h : ReadTo .none rows fault stats stop) : stop = obstacle? rows fault := by
  have hread : ∀ {before : List Value} {stats : List TableStat}, ReadAs .none before stats →
      before.findSome? badRow? = none := by
    intro before stats h
    rw [List.findSome?_eq_none_iff]
    intro row hrow
    obtain ⟨stat, -, hstat⟩ := List.mem_map.mp (h.read ▸ List.mem_map_of_mem hrow)
    simp [badRow?, ← hstat]
  cases h with
  | all read => simp [obstacle?, hread read]
  | bad parts read unread => simp [obstacle?, parts, hread read, badRow?, unread]
  | unwritten _ _ _ refused => cases refused

theorem report_eq (h : (conn.execute .stats s.world).1 = .ok reply) (hclose : reply.closeFault = none) : ∃ stats,
    (report conn s).1 = (readingEnd stats (obstacle? reply.rows reply.fetchFault)).mapError wrapUnreadable := by
  obtain ⟨stats, stop, hread, hreport⟩ := exists_report h
  exact ⟨stats, by rw [report, hreport, hclose, hread.stop_eq]; rfl⟩

theorem report_of_observed (h : (conn.execute .stats s.world).1 = .ok reply) (hreply : Observed (.ok reply)) :
    (∃ stats, (report conn s).1 = .ok stats) ∨ ∃ e, (report conn s).1 = .error e ∧ IsStatsFault e := by
  obtain ⟨stats, hreport⟩ := report_eq h hreply.1
  rw [hreport]
  cases hstop : obstacle? reply.rows reply.fetchFault with
  | none => exact .inl ⟨stats, rfl⟩
  | some f =>
    obtain ⟨cause, rfl, hcause⟩ := hreply.2 f hstop
    exact .inr ⟨_, rfl, _, _, if_pos hcause⟩

theorem report_of_overflow (h : (conn.execute .stats s.world).1 = .ok reply) (hclose : reply.closeFault = none)
    (hm : m.kind = .overflow) (hstop : obstacle? reply.rows reply.fetchFault = some (.outside (.mishap m))) :
    (report conn s).1 = .error (.outside (.mishap m)) := by
  obtain ⟨stats, hreport⟩ := report_eq h hclose
  have hcause : isUnreadable (.mishap m) = false := by
    simp [isUnreadable, hm]
  rw [hreport, hstop]
  exact congrArg Except.error (if_neg (by simp [hcause]))

theorem statistics_of_overflow (h : (report conn s).1 = .error (.outside (.mishap m))) :
    (statistics conn s).1 = .error (.outside (.mishap m)) := by
  unfold statistics
  generalize report conn s = r at h
  obtain ⟨r, t⟩ := r
  obtain rfl : r = .error (.outside (.mishap m)) := h
  rfl

end Report

section Runs

variable {σ : Type} {conn : Connection σ} {s t u : Session σ} {faults : StepFaults} {plan : Plan} {now cutoff : Moment}
  {dryRun : Value} {reply : Reply}

def workStage (dryRun : Value) : Stage :=
  if dryRun.holds then .dryRunReport else .deleteLoop

theorem leads_undertake (conn : Connection σ) (dryRun : Value) (cutoff : Moment) (t : Session σ) :
    (t.enter (workStage dryRun)).Leads conn (undertake conn dryRun cutoff t).2 := by
  have h : ∀ stage, Enduring conn (Session.Leads conn (t.enter stage)) := fun _ => enduring_leads
  unfold undertake workStage
  split
  · exact (Keeps.bind ((h _).keeps_dryRunReport cutoff) fun _ => keeps_conclude (h _)).apply (.refl _)
  · exact (Keeps.bind ((h _).keeps_deleteLoop cutoff) fun _ => keeps_conclude (h _)).apply (.refl _)

theorem maintain_of_statistics {stats : List TableStat}
    (h : statistics conn (s.enter .statsBefore) = (.ok stats, t)) :
    maintain conn dryRun cutoff s =
      undertake conn dryRun cutoff { t with tally := { t.tally with statsBefore := stats } } := by
  rw [maintain_eq, bind_of_ok (show Job.enter .statsBefore s = (.ok (), s.enter .statsBefore) from rfl), bind_of_ok h]
  rfl

theorem maintain_of_fault {e : Fault} (h : statistics conn (s.enter .statsBefore) = (.error e, t)) :
    maintain conn dryRun cutoff s = (.error e, t) := by
  rw [maintain_eq, bind_of_ok (show Job.enter .statsBefore s = (.ok (), s.enter .statsBefore) from rfl)]
  exact bind_of_error h

theorem maintain_reachesWork {stats : List TableStat} (hs : s.Leads conn u)
    (h : (statistics conn (u.enter .statsBefore)).1 = .ok stats) :
    ∃ es, (maintain conn dryRun cutoff u).2.journal = s.journal ++ es ∧
      .logged (stateRecord (workStage dryRun)) ∈ es := by
  let t : Session σ := (statistics conn (u.enter .statsBefore)).2
  let t' : Session σ := { t with tally := { t.tally with statsBefore := stats } }
  have ht : s.Leads conn t' :=
    enduring_leads.tally _ (enduring_leads.keeps_statistics.apply (enduring_leads.enter .statsBefore hs))
  obtain ⟨before, hbefore, -⟩ := ht
  obtain ⟨behind, hbehind, -⟩ := leads_undertake conn dryRun cutoff t'
  refine ⟨before ++ (.logged (stateRecord (workStage dryRun)) :: behind), ?_, ?_⟩
  · rw [maintain_of_statistics (Prod.ext h rfl), hbehind]
    simp [Session.enter, Session.log, Session.note, hbefore, stateRecord]
  · simp

/-- What a run may add until its first statistics have ended. -/
def Scope.first : Scope :=
  { Scope.statistics with stages := [.statsBefore] }

/-- Of a run that added the events, nothing was executed but the first statistics, and its work was not begun. -/
structure StopsShort (dryRun : Value) (es : List Event) : Prop where
  statements : ∀ st ∈ executed es, st = .stats
  stage : .logged (stateRecord (workStage dryRun)) ∉ es

theorem stopsShort_of_covers {url : Text.Loose} {ending : Ending} {es : List Event}
    (h : ∀ e ∈ es, (Scope.first.ended ending).Covers e) : StopsShort dryRun (openings url ++ es) := by
  constructor
  · intro st hst
    rw [executed_append] at hst
    exact List.mem_singleton.mp (Scope.mem_statements h hst)
  · intro hstage
    have hinit : workStage dryRun ≠ .init := by
      unfold workStage
      split <;> simp
    rcases List.mem_append.mp hstage with hstage | hstage
    · simp [openings, stateRecord_injective.eq_iff, hinit] at hstage
    · have hnames : "maintenance.state" ∉ (Scope.first.ended ending).names := by
        cases ending <;> simp [Scope.ended, Ending.last?, Scope.first, Scope.statistics]
      have hmem := Scope.mem_stages (h _ hstage) hnames
      revert hmem
      unfold workStage
      cases ending <;> split <;> simp [Scope.ended, Ending.last?, Scope.first]

theorem run_stopsShort (hc : Calendar.cutoff now plan.months = .ok cutoff) (hcreate : faults.create = none)
    (hconnect : faults.connect = none) (hoptions : faults.options = none) {m : Mishap}
    (h : (statistics conn ((entered plan.url (starting s)).enter .statsBefore)).1 = .error (.outside (.mishap m))) :
    let r := run ⟨conn, openConnection faults⟩ plan now s
    (∃ es, r.2.journal = s.journal ++ es ∧ StopsShort plan.dryRun es) ∧
      (faults.close = none → faults.dispose = none → r.1 = .crashed (.mishap m)) := by
  let u : Session σ := entered plan.url (starting s)
  let t : Session σ := (statistics conn (u.enter .statsBefore)).2
  intro r
  have hr : r = finish cutoff plan.dryRun
      (faults.leave (.error (.outside (.mishap m))), left t) := by
    have hwork : maintain conn plan.dryRun cutoff u = (.error (.outside (.mishap m)), t) :=
      maintain_of_fault (Prod.ext h rfl)
    rw [show r = _ from run_entered hc hcreate hconnect hoptions, hwork]
  constructor
  · let c : Scope := Scope.first.ended r.1
    have hle : Scope.statistics ≤ c := by
      simp [LE.le, c, Scope.ended, Scope.first, Scope.statistics]
    have hu : ((starting s).note (.stepped (.url plan.url))).Within c (u.enter .statsBefore) :=
      (within_entered c plan.url (starting s)).enter .statsBefore (by simp [c, Scope.ended, Scope.first])
    have hend : (left t).Within c r.2 := by
      have hfinish := within_finish Scope.first cutoff plan.dryRun
        (faults.leave (.error (.outside (.mishap m)))) (left t)
      rwa [← hr] at hfinish
    obtain ⟨-, es, hj, hes⟩ := ((hu.trans ((within_statistics.run _).mono hle)).trans (within_left c t)).trans hend
    refine ⟨openings plan.url ++ es, ?_, stopsShort_of_covers hes⟩
    rw [hj, Session.note, journal_starting]
    simp [openings]
  · intro hclose hdispose
    rw [hr, faults.leave_of_none hclose hdispose]
    rfl

theorem run_reachesWork (hc : Calendar.cutoff now plan.months = .ok cutoff) (hcreate : faults.create = none)
    (hconnect : faults.connect = none) (hoptions : faults.options = none) {stats : List TableStat}
    (h : (statistics conn ((entered plan.url (starting s)).enter .statsBefore)).1 = .ok stats) :
    ∃ es, (run ⟨conn, openConnection faults⟩ plan now s).2.journal = s.journal ++ es ∧
      .logged (stateRecord (workStage plan.dryRun)) ∈ es := by
  let u : Session σ := entered plan.url (starting s)
  let w : Except Fault Unit × Session σ := maintain conn plan.dryRun cutoff u
  let result : Except Fault Unit := faults.leave w.1
  have hu : s.Leads conn u := (leads_starting s).trans (leads_entered ..)
  have hend : w.2.Leads conn (finish cutoff plan.dryRun (result, left w.2)).2 := (leads_left _).trans (leads_finish ..)
  have hwork : ∃ es, w.2.journal = s.journal ++ es ∧ .logged (stateRecord (workStage plan.dryRun)) ∈ es :=
    maintain_reachesWork hu h
  obtain ⟨es, hj, hes⟩ := hwork
  obtain ⟨es', hj', -⟩ := hend
  refine ⟨es ++ es', ?_, List.mem_append_left _ hes⟩
  rw [run_entered hc hcreate hconnect hoptions]
  exact hj'.trans (by rw [hj, List.append_assoc])

/-- Unless an infinite counter spoils the rows, a report returns statistics or fails with the error for them, and a
run gets to its work. If one does, the overflow passes the report as it is and ends the run before its work. -/
theorem overflow_escapes (conn : Connection σ) (s : Session σ) (hc : Calendar.cutoff now plan.months = .ok cutoff)
    (hcreate : faults.create = none) (hconnect : faults.connect = none) (hoptions : faults.options = none)
    (hreply : (conn.execute .stats s.world).1 = .ok reply) (hclose : reply.closeFault = none)
    (hcut : ∀ f, reply.fetchFault = some f → IsDriverFault f) :
    let r := run ⟨conn, openConnection faults⟩ plan now s
    ∃ es, r.2.journal = s.journal ++ es ∧
      (spoiled reply.rows = false →
        ((∃ stats, (report conn s).1 = .ok stats) ∨ ∃ e, (report conn s).1 = .error e ∧ IsStatsFault e) ∧
        .logged (stateRecord (workStage plan.dryRun)) ∈ es) ∧
      (spoiled reply.rows = true → ∃ m, m.kind = .overflow ∧ (report conn s).1 = .error (.outside (.mishap m)) ∧
        StopsShort plan.dryRun es ∧ (faults.close = none → faults.dispose = none → r.1 = .crashed (.mishap m))) := by
  intro r
  have hstart : (conn.execute .stats ((entered plan.url (starting s)).enter .statsBefore).world).1 = .ok reply := hreply
  rcases observed_or_spoiled hclose hcut with ⟨hrows, hobserved⟩ | ⟨hrows, m, hm, hstop⟩
  · obtain ⟨stats, hstats⟩ := statistics_of_observed (show Observed _ from hstart ▸ hobserved)
    obtain ⟨es, hj, hes⟩ := run_reachesWork hc hcreate hconnect hoptions hstats
    exact ⟨es, hj, fun _ => ⟨report_of_observed hreply hobserved, hes⟩, fun h => by simp [hrows] at h⟩
  · have hstats := statistics_of_overflow (report_of_overflow hstart hclose hm hstop)
    obtain ⟨⟨es, hj, hes⟩, hend⟩ := run_stopsShort hc hcreate hconnect hoptions hstats
    exact ⟨es, hj, fun h => by simp [hrows] at h,
      fun _ => ⟨m, hm, report_of_overflow hreply hclose hm hstop, hes, hend⟩⟩

/-- The live rows of the second table are infinitely many. -/
def boundless : Reply :=
  { Reply.empty with rows := [statRow "composes" (.int 3), statRow "clones" (.float (.infinite false))] }

/-- Two clones and three composes wait for their deletion in vain. -/
theorem run_boundless :
    let script : Script := .ok boundless :: deleting.tail
    let plan : Plan := ⟨"", .bool false, .int 0⟩
    let r := run ⟨Script.connection "postgresql", openConnection .none⟩ plan (.ofEpochMicros 0) (.start script)
    r.1 = .crashed (.mishap ⟨.overflow, "cannot convert float infinity to integer"⟩) ∧
      StopsShort (.bool false) r.2.journal := by
  intro script plan r
  have hc : Calendar.cutoff (.ofEpochMicros 0) plan.months = .ok (.ofEpochMicros 0) := cutoff_zero _
  have hreply : ((Script.connection "postgresql").execute .stats (Session.start script).world).1 = .ok boundless := rfl
  have hcut : ∀ f, boundless.fetchFault = some f → IsDriverFault f := fun _ hf => nomatch hf
  have hreport : (report (Script.connection "postgresql") (.start script)).1 =
      .error (.outside (.mishap ⟨.overflow, "cannot convert float infinity to integer"⟩)) := rfl
  obtain ⟨es, hj, -, hspoiled⟩ := overflow_escapes (Script.connection "postgresql") (.start script) hc
    (show StepFaults.none.create = none from rfl) rfl rfl hreply rfl hcut
  obtain ⟨m, -, hm, hstops, hcrashed⟩ := hspoiled (by decide +kernel)
  obtain rfl : m = _ := Cause.mishap.inj (Fault.outside.inj (Except.error.inj (hm.symm.trans hreport)))
  refine ⟨hcrashed rfl rfl, ?_⟩
  rw [hj]
  exact hstops

end Runs
end Run
end Retention
