import Retention.Proofs.Run.Passes

/-! # The work of a run

Statistics and counts that are answered plainly never stop a run, whatever becomes of them. What is
left is whether the connection opens, whether the run is live, and how its passes end; each of the
four ways that a run can go has its statements, its records and its end.
-/

namespace Retention.Run

open Calendar Database Job

variable {σ α : Type} {conn : Connection σ} {cutoff : Moment} {s : Session σ} {stage : Stage} {k : Sums}

section Statistics

theorem readRows_does (conn : Connection σ) (rows : List Value) (fault : Option Fault) (hs : s.IsAt stage k) :
    (∃ l, Does conn (readRows .none rows fault) s [] [] (.ok l) stage k) ∨
      ∃ f, obstacle? rows fault = some f ∧ Does conn (readRows .none rows fault) s [] [] (.error f) stage k := by
  induction rows generalizing s with
  | nil =>
    cases fault with
    | none => exact .inl ⟨[], (Does.done hs ()).bind (.done hs [])⟩
    | some f => exact .inr ⟨f, rfl, (Does.fail hs f).bind_error⟩
  | cons row rest ih =>
    cases hrow : TableStat.ofRow row with
    | error bad =>
      refine .inr ⟨.outside (.mishap bad.toMishap), by simp [obstacle?, badRow?, hrow], ?_⟩
      have hx : Does conn (Job.ofExcept ((TableStat.ofRow row).mapError BadStatRow.toMishap)) s [] []
          (.error (.outside (.mishap bad.toMishap))) stage k := by
        rw [hrow]
        exact .fail hs _
      exact hx.bind_error
    | ok stat =>
      have ho : obstacle? (row :: rest) fault = obstacle? rest fault := by
        simp [obstacle?, badRow?, hrow]
      have hx : Does conn (Job.ofExcept ((TableStat.ofRow row).mapError BadStatRow.toMishap)) s [] [] (.ok stat)
          stage k := by
        rw [hrow]
        exact .done hs _
      have hlog : Does conn (Job.log stat.record) _ [] [] (.ok ()) stage k := Does.note hx.isAt (.report rfl)
      rcases ih hlog.isAt with ⟨l, hl⟩ | ⟨f, hf, hl⟩
      · exact .inl ⟨stat :: l, hx.bind (hlog.bind (hl.bind (.done hl.isAt _)))⟩
      · exact .inr ⟨f, ho.trans hf, hx.bind (hlog.bind hl.bind_error)⟩

theorem close_does {reply : Reply} (hclose : reply.closeFault = none) (hs : s.IsAt stage k) :
    Does conn (Job.close reply) s [] [] (.ok ()) stage k := by
  have hx : Does conn (Job.note .closed) s [] [] (.ok ()) stage k := .note hs ⟨rfl, rfl, rfl⟩
  refine hx.bind ?_
  rw [hclose]
  exact .done hx.isAt ()

/-- The report fails with the error for statistics at worst. -/
theorem report_does (hs : s.IsAt stage k) (h : s.Plain conn (report conn s).2) :
    (∃ l, Does conn (report conn) s [.stats] [] (.ok l) stage k) ∨
      ∃ message cause, Does conn (report conn) s [.stats] [] (.error (.job ⟨.stats, message, cause⟩)) stage k := by
  have hread : ∀ (reply : Reply) t, Keeps (Session.Leads conn t)
      ((readRows .none reply.rows reply.fetchFault).mapFault wrapUnreadable |>.always (Job.close reply)) := fun reply _ =>
    .always (.mapFault (keeps_readRows enduring_leads.toSteady _ _)) (enduring_leads.keeps_close reply)
  have hplain := h.answer (leads_bind _ hread)
  cases hr : (conn.execute .stats s.world).1 with
  | error f =>
    rw [hr] at hplain
    obtain ⟨e, rfl⟩ := hplain
    exact .inr ⟨_, _, ((Does.execute_error hs hr).mapFault _).bind_error⟩
  | ok reply =>
    rw [hr] at hplain
    obtain ⟨hclose, hunreadable⟩ := hplain
    have hx := (Does.execute_ok hs hr).mapFault (wrapDriver .stats "Error querying vacuum stats: ")
    rcases readRows_does conn reply.rows reply.fetchFault hx.isAt with ⟨l, hl⟩ | ⟨f, hf, hl⟩
    · exact .inl ⟨l, hx.bind ((hl.mapFault wrapUnreadable).always (close_does hclose hl.isAt))⟩
    · obtain ⟨cause, rfl, hcause⟩ := hunreadable f hf
      have hwrap : wrapUnreadable (.outside cause) =
          .job ⟨.stats, "Error reading vacuum stats row: " ++ cause.message, some cause⟩ := if_pos hcause
      have hl := hl.mapFault wrapUnreadable
      rw [mapError_error, hwrap] at hl
      exact .inr ⟨_, _, hx.bind (hl.always (close_does hclose hl.isAt))⟩

theorem leads_statistics (conn : Connection σ) (s : Session σ) :
    (report conn s).2.Leads conn (statistics conn s).2 := by
  unfold statistics
  split
  · rename_i hr
    rw [hr]
    exact enduring_leads.log _ (.refl _)
  · exact .refl _

theorem statistics_does (hs : s.IsAt stage k) (h : s.Plain conn (statistics conn s).2) :
    ∃ l, Does conn (statistics conn) s [.stats] [] (.ok l) stage k := by
  have hreport : Keeps (Session.Leads conn s) (report conn) :=
    keeps_report enduring_leads.toSteady (enduring_leads.execute _)
  have hplain := (h.split (hreport.apply (.refl s)) (leads_statistics conn s)).1
  rcases report_does hs hplain with ⟨l, hl⟩ | ⟨message, cause, hl⟩
  · have hr : report conn s = (.ok l, (report conn s).2) := Prod.ext hl.result rfl
    exact ⟨l, hl.congr (by rw [statistics, hr])⟩
  · have hr : report conn s = (.error (.job ⟨.stats, message, cause⟩), (report conn s).2) := Prod.ext hl.result rfl
    have hz : statistics conn s = (.ok [], (report conn s).2.log (.warning "stats.error"
        [("error", .text message), ("state", .text (report conn s).2.stage.word)])) := by
      rw [statistics, hr]
    exact ⟨[], hl.instead hz rfl⟩

end Statistics

section Counting

theorem countExpired_does (table : Table) (hs : s.IsAt stage k)
    (h : s.Plain conn (countExpired conn table cutoff s).2) :
    (∃ n, Does conn (countExpired conn table cutoff) s [table.count cutoff] [] (.ok n) stage k) ∨
      ∃ message cause, Does conn (countExpired conn table cutoff) s [table.count cutoff] []
        (.error (.job ⟨.count (.text table.name), message, cause⟩)) stage k := by
  have hscalar : ∀ (reply : Reply) t, Keeps (Session.Leads conn t) (scalar reply) := by
    intro reply t
    unfold scalar
    split
    · exact .done fun _ ht => ht
    · exact .fail fun _ ht => ht
  have hcount := leads_bind (s := s) (Job.execute conn (table.count cutoff)) hscalar
  have hleads : (Job.execute conn (table.count cutoff) s).2.Leads conn (countExpired conn table cutoff s).2 :=
    hcount.trans (leads_bind ((Job.execute conn (table.count cutoff) >>= scalar).mapFault (wrapCount table))
      fun _ _ => .ofExcept _)
  have hplain := h.answer hleads
  cases hr : (conn.execute (table.count cutoff) s.world).1 with
  | error f =>
    rw [hr] at hplain
    obtain ⟨e, rfl⟩ := hplain
    have hx := (Does.execute_error hs hr).bind_error (f := scalar)
    exact .inr ⟨_, _, (hx.mapFault (wrapCount table)).bind_error⟩
  | ok reply =>
    rw [hr] at hplain
    have hx := Does.execute_ok hs hr
    have hanswer : (∃ n, reply.scalar = .ok (.int n)) ∨ ∃ f, reply.scalar = .error f ∧ IsDriverFault f := by
      cases table <;> exact hplain
    rcases hanswer with ⟨n, hn⟩ | ⟨f, hf, e, rfl⟩
    · have hscalar : Does conn (scalar reply) (Job.execute conn (table.count cutoff) s).2 [] []
          (.ok (.int n)) stage k := by
        rw [scalar, hn]
        exact .done hx.isAt _
      have hcounted := (hx.bind hscalar).mapFault (wrapCount table)
      exact .inl ⟨n, hcounted.bind (.done hcounted.isAt n)⟩
    · have hscalar : Does conn (scalar reply) (Job.execute conn (table.count cutoff) s).2 [] []
          (.error (.outside (.driver e))) stage k := by
        rw [scalar, hf]
        exact .fail hx.isAt _
      exact .inr ⟨_, _, ((hx.bind hscalar).mapFault (wrapCount table)).bind_error⟩

theorem leads_expectedCount (conn : Connection σ) (table : Table) (cutoff : Moment) (s : Session σ) :
    (countExpired conn table cutoff s).2.Leads conn (expectedCount conn table cutoff s).2 := by
  unfold expectedCount
  split <;> rename_i hr <;> rw [hr]
  · exact .refl _
  · exact enduring_leads.log _ (.refl _)
  · exact .refl _

theorem expectedCount_does (table : Table) (hs : s.IsAt stage k)
    (h : s.Plain conn (expectedCount conn table cutoff s).2) :
    ∃ n, Does conn (expectedCount conn table cutoff) s [table.count cutoff] [] (.ok n) stage k := by
  have hcount : Keeps (Session.Leads conn s) (countExpired conn table cutoff) :=
    enduring_leads.keeps_countExpired cutoff table
  have hplain := (h.split (hcount.apply (.refl s)) (leads_expectedCount conn table cutoff s)).1
  rcases countExpired_does table hs hplain with ⟨n, hn⟩ | ⟨message, cause, hn⟩
  · have hr : countExpired conn table cutoff s = (.ok n, (countExpired conn table cutoff s).2) :=
      Prod.ext hn.result rfl
    have hdone : Does conn (fun t => (.ok (some n), t) : Job σ (Option Int)) (countExpired conn table cutoff s).2 [] []
        (.ok (some n)) stage k := .done hn.isAt _
    exact ⟨some n, hn.after hdone (by rw [expectedCount, hr])⟩
  · have hr : countExpired conn table cutoff s =
        (.error (.job ⟨.count (.text table.name), message, cause⟩), (countExpired conn table cutoff s).2) :=
      Prod.ext hn.result rfl
    have hz : expectedCount conn table cutoff s = (.ok none, (countExpired conn table cutoff s).2.log
        (.warning "dry_run.count_error" [("table", .text table.name), ("error", .text message)])) := by
      rw [expectedCount, hr]
    exact ⟨none, hn.instead hz rfl⟩

/-- The part of a dry run behind both counts. -/
def reportExpired (cutoff : Moment) (clones composes : Option Int) : Job σ Unit := do
  Job.count fun t => { t with expiredComposes := composes }
  Job.log (.info "dry_run.expired" [("cutoff", .text cutoff.toText), ("expired_composes", intOrNull composes),
    ("expired_clones", intOrNull clones)])

def countComposes (conn : Connection σ) (cutoff : Moment) (clones : Option Int) : Job σ Unit := do
  Job.count fun t => { t with expiredClones := clones }
  let composes ← expectedCount conn .composes cutoff
  reportExpired cutoff clones composes

theorem dryRunReport_eq (conn : Connection σ) (cutoff : Moment) :
    dryRunReport conn cutoff = expectedCount conn .clones cutoff >>= countComposes conn cutoff :=
  rfl

theorem reportExpired_does (clones composes : Option Int) (hs : s.IsAt stage k) :
    Does conn (reportExpired cutoff clones composes) s [] [] (.ok ()) stage k := by
  have hx : Does conn (Job.count fun t => { t with expiredComposes := composes }) s [] [] (.ok ()) stage k :=
    .count hs _ ⟨hs.sums.iterations, hs.sums.clones, hs.sums.composes⟩
  exact hx.bind (.note hx.isAt (.report rfl))

theorem dryRunReport_does (hs : s.IsAt stage k) (h : s.Plain conn (dryRunReport conn cutoff s).2) :
    Does conn (dryRunReport conn cutoff) s [.countClones cutoff, .countComposes cutoff] [] (.ok ()) stage k := by
  rw [dryRunReport_eq] at h ⊢
  have hreport : ∀ (clones composes : Option Int) t,
      Keeps (Session.Leads conn t) (reportExpired cutoff clones composes) := fun _ _ _ =>
    .bind (enduring_leads.keeps_count _) fun _ => enduring_leads.triple_log _
  have hcount : ∀ clones t, Keeps (Session.Leads conn t) (countComposes conn cutoff clones) := fun clones _ =>
    .bind (enduring_leads.keeps_count _) fun _ => .bind (enduring_leads.keeps_expectedCount _ _) fun _ => hreport _ _ _
  obtain ⟨clones, hclones⟩ := expectedCount_does .clones hs (h.first (enduring_leads.keeps_expectedCount _ _) hcount)
  have hx : Does conn (Job.count fun t => { t with expiredClones := clones }) _ [] [] (.ok ()) stage k :=
    .count hclones.isAt _ ⟨hclones.isAt.sums.iterations, hclones.isAt.sums.clones, hclones.isAt.sums.composes⟩
  have hrest := (h.rest hclones hcount).rest hx fun _ _ => .bind (enduring_leads.keeps_expectedCount _ _) fun _ =>
    hreport _ _ _
  obtain ⟨composes, hcomposes⟩ := expectedCount_does .composes hx.isAt
    (hrest.first (enduring_leads.keeps_expectedCount _ _) fun _ _ => hreport _ _ _)
  exact hclones.bind (hx.bind (hcomposes.bind (reportExpired_does _ _ hcomposes.isAt)))

end Counting

section Maintain

variable {dryRun : Value}

def stateRecord (stage : Stage) : Log.Record :=
  .debug "maintenance.state" [("state", .text stage.word)]

@[simp] theorem isNamed_stateRecord (name : String) (stage : Stage) :
    (stateRecord stage).isNamed name = ("maintenance.state" == name) := rfl

theorem Stage.word_injective : Function.Injective Stage.word := by
  intro a b h
  cases a <;> cases b <;> first | rfl | simp [word] at h

theorem stateRecord_injective : Function.Injective stateRecord := by
  intro a b h
  apply Stage.word_injective
  simpa [stateRecord, Log.Record.debug] using h

theorem enter_does (conn : Connection σ) (stage' : Stage) (hs : s.IsAt stage k) :
    Does conn (Job.enter stage') s [] [stateRecord stage'] (.ok ()) stage' k :=
  ⟨rfl, rfl, ⟨rfl, hs.sums⟩, [.logged (stateRecord stage')], rfl, .logged Bool.false_ne_true⟩

def conclude (conn : Connection σ) : Job σ Unit := do
  Job.enter .statsAfter
  let after ← statistics conn
  Job.count fun t => { t with statsAfter := after }

def undertake (conn : Connection σ) (dryRun : Value) (cutoff : Moment) : Job σ Unit :=
  if dryRun.holds then do
    Job.enter .dryRunReport
    dryRunReport conn cutoff
    conclude conn
  else do
    Job.enter .deleteLoop
    deleteLoop conn cutoff
    conclude conn

theorem maintain_eq (conn : Connection σ) (dryRun : Value) (cutoff : Moment) :
    maintain conn dryRun cutoff = (do
      Job.enter .statsBefore
      let before ← statistics conn
      Job.count fun t => { t with statsBefore := before }
      undertake conn dryRun cutoff) :=
  rfl

theorem keeps_conclude {P : Session σ → Prop} (h : Enduring conn P) : Keeps P (conclude conn) :=
  .bind (h.triple_enter _) fun _ => .bind h.keeps_statistics fun _ => h.keeps_count _

theorem conclude_does (hs : s.IsAt stage k) (h : s.Plain conn (conclude conn s).2) :
    Does conn (conclude conn) s [.stats] [stateRecord .statsAfter] (.ok ()) .statsAfter k := by
  have henter := enter_does conn .statsAfter hs
  have hrest := h.rest henter fun _ _ => .bind enduring_leads.keeps_statistics fun _ => enduring_leads.keeps_count _
  obtain ⟨after, hafter⟩ := statistics_does henter.isAt
    (hrest.first enduring_leads.keeps_statistics fun _ _ => enduring_leads.keeps_count _)
  have hk := hafter.isAt.sums
  exact henter.bind (hafter.bind (.count hafter.isAt _ ⟨hk.iterations, hk.clones, hk.composes⟩))

theorem keeps_undertake {P : Session σ → Prop} (h : Enduring conn P) : Keeps P (undertake conn dryRun cutoff) := by
  unfold undertake
  split
  · exact .bind (h.triple_enter _) fun _ => .bind (h.keeps_dryRunReport _) fun _ => keeps_conclude h
  · exact .bind (h.triple_enter _) fun _ => .bind (h.keeps_deleteLoop _) fun _ => keeps_conclude h

theorem undertake_dry (hdry : dryRun.holds = true) (hs : s.IsAt stage k)
    (h : s.Plain conn (undertake conn dryRun cutoff s).2) :
    Does conn (undertake conn dryRun cutoff) s [.countClones cutoff, .countComposes cutoff, .stats]
      [stateRecord .dryRunReport, stateRecord .statsAfter] (.ok ()) .statsAfter k := by
  rw [undertake, if_pos hdry] at h ⊢
  have henter := enter_does conn .dryRunReport hs
  have hrest := h.rest henter fun _ _ => .bind (enduring_leads.keeps_dryRunReport _) fun _ =>
    keeps_conclude enduring_leads
  have hreport := dryRunReport_does henter.isAt
    (hrest.first (enduring_leads.keeps_dryRunReport _) fun _ _ => keeps_conclude enduring_leads)
  have hlast := conclude_does hreport.isAt (hrest.rest hreport fun _ _ => keeps_conclude enduring_leads)
  exact henter.bind (hreport.bind hlast)

/-- A live run goes through passes, and if none of them fails it reports statistics again. -/
theorem undertake_live (hlive : dryRun.holds = false) (hs : s.IsAt stage k)
    (h : s.Plain conn (undertake conn dryRun cutoff s).2) :
    ∃ ps, Passes conn cutoff s.world ps ∧
      let sts := ps.flatMap (Pass.statements conn.dialect cutoff)
      let recs := stateRecord .deleteLoop :: passesRecords k.iterations ps
      (∀ e, ps.findSome? Pass.error? = some e →
        Does conn (undertake conn dryRun cutoff) s sts recs (.error (.job e)) .deleteLoop (ps.foldl Sums.plus k)) ∧
      (ps.findSome? Pass.error? = none →
        Does conn (undertake conn dryRun cutoff) s (sts ++ [.stats]) (recs ++ [stateRecord .statsAfter]) (.ok ())
          .statsAfter (ps.foldl Sums.plus k)) := by
  rw [undertake, if_neg (by simp [hlive])] at h ⊢
  have henter := enter_does conn .deleteLoop hs
  have hrest := h.rest henter fun _ _ => .bind (enduring_leads.keeps_deleteLoop _) fun _ =>
    keeps_conclude enduring_leads
  obtain ⟨ps, hps, hloop⟩ := deleteLoop_does henter.isAt
    (hrest.first (enduring_leads.keeps_deleteLoop _) fun _ _ => keeps_conclude enduring_leads)
  refine ⟨ps, hps, fun e he => ?_, fun he => ?_⟩
  · rw [passesOutcome, he] at hloop
    exact henter.bind hloop.bind_error
  · rw [passesOutcome, he] at hloop
    have hlast := conclude_does hloop.isAt (hrest.rest hloop fun _ _ => keeps_conclude enduring_leads)
    exact henter.bind (hloop.bind hlast)

theorem maintain_reaches (hs : s.IsAt stage k) (h : s.Plain conn (maintain conn dryRun cutoff s).2) :
    ∃ t, Reaches conn (maintain conn dryRun cutoff) s (undertake conn dryRun cutoff) t [.stats]
      [stateRecord .statsBefore] .statsBefore k := by
  rw [maintain_eq] at h ⊢
  have hcounted : ∀ (before : List TableStat) t, Keeps (Session.Leads conn t) (do
      Job.count fun t => { t with statsBefore := before }
      undertake conn dryRun cutoff) := fun _ _ =>
    .bind (enduring_leads.keeps_count _) fun _ => keeps_undertake enduring_leads
  have henter := h.reaches (enter_does conn .statsBefore hs) fun _ _ =>
    .bind enduring_leads.keeps_statistics fun before => hcounted before _
  obtain ⟨before, hbefore⟩ := statistics_does henter.isAt (henter.plain.first enduring_leads.keeps_statistics hcounted)
  have hstatistics := henter.plain.reaches hbefore hcounted
  have hsums := hstatistics.isAt.sums
  have hcount := hstatistics.plain.reaches
    (.count hstatistics.isAt _ ⟨hsums.iterations, hsums.clones, hsums.composes⟩) fun _ _ =>
      keeps_undertake enduring_leads
  exact ⟨_, henter.trans (hstatistics.trans hcount)⟩

end Maintain

section Opening

variable {faults : StepFaults} {url : Text.Loose} {body : Job σ Unit}

def connectionError (text : String) (e : DriverError) : JobError :=
  ⟨.connection, text ++ e.message, some (.driver e)⟩

/-- The error with which the connection does not open. -/
def StepFaults.refusal? (faults : StepFaults) : Option JobError :=
  match faults.create.bind Fault.driver?, faults.connect.bind Fault.driver? with
  | some e, _ => some (connectionError "Invalid database URL: " e)
  | .none, some e => some (connectionError "Error connecting to database: " e)
  | .none, .none => .none

theorem StepFaults.Within.cases (h : faults.Within IsDriverFault) :
    (∃ d, faults.create = some (.outside (.driver d)) ∧
      faults.refusal? = some (connectionError "Invalid database URL: " d)) ∨
    faults.create = .none ∧ ((∃ d, faults.connect = some (.outside (.driver d)) ∧
      faults.refusal? = some (connectionError "Error connecting to database: " d)) ∨
      faults.connect = .none ∧ faults.refusal? = .none) := by
  cases hcreate : faults.create with
  | some f =>
    obtain ⟨d, rfl⟩ := h.create f hcreate
    exact .inl ⟨d, rfl, by simp [StepFaults.refusal?, hcreate, Fault.driver?]⟩
  | none =>
    cases hconnect : faults.connect with
    | some f =>
      obtain ⟨d, rfl⟩ := h.connect f hconnect
      exact .inr ⟨rfl, .inl ⟨d, rfl, by simp [StepFaults.refusal?, hcreate, hconnect, Fault.driver?]⟩⟩
    | none => exact .inr ⟨rfl, .inr ⟨rfl, by simp [StepFaults.refusal?, hcreate, hconnect]⟩⟩

theorem step_does (conn : Connection σ) (st : Step) (hs : s.IsAt stage k) :
    Does conn (step st none) s [] [] (.ok ()) stage k := by
  have hx : Does conn (Job.note (.stepped st)) s [] [] (.ok ()) stage k := .note hs ⟨rfl, rfl, rfl⟩
  exact hx.bind (.done hx.isAt ())

theorem step_fails (conn : Connection σ) (st : Step) (f : Fault) (hs : s.IsAt stage k) :
    Does conn (step st (some f)) s [] [] (.error (st.leaving f)) stage k := by
  have hx : Does conn (Job.note (.stepped st)) s [] [] (.ok ()) stage k := .note hs ⟨rfl, rfl, rfl⟩
  exact hx.bind (.fail hx.isAt (st.leaving f))

def connected (options : Option Fault) (body : Job σ Unit) : Job σ Unit := do
  Job.note (.stepped (.isolation isolation))
  step .options options
  body

def opened (connect options close : Option Fault) (body : Job σ Unit) : Job σ Unit := do
  (step .connect connect).mapFault (wrapDriver .connection "Error connecting to database: ")
  (connected options body).always (step .close close)

theorem openConnection_eq (faults : StepFaults) (url : Text.Loose) (body : Job σ Unit) :
    openConnection faults url body = (do
      Job.note (.stepped (.url url))
      (step .create faults.create).mapFault (wrapDriver .connection "Invalid database URL: ")
      (opened faults.connect faults.options faults.close body).always (step .dispose faults.dispose)) :=
  rfl

theorem keeps_connected {P : Session σ → Prop} (h : Enduring conn P) (options : Option Fault) (hbody : Keeps P body) :
    Keeps P (connected options body) :=
  .bind (h.triple_note rfl) fun _ => .bind (h.keeps_step _ _) fun _ => hbody

theorem keeps_opened {P : Session σ → Prop} (h : Enduring conn P) (connect options close : Option Fault)
    (hbody : Keeps P body) : Keeps P (opened connect options close body) :=
  .bind (.mapFault (h.keeps_step _ _)) fun _ => .always (keeps_connected h _ hbody) (h.keeps_step _ _)

theorem always_reaches {x : Job σ Unit} (st : Step) (hs : s.IsAt stage k)
    (h : s.Plain conn (x.always (step st none) s).2) (hx : Keeps (Session.Leads conn s) x) :
    Reaches conn (x.always (step st none)) s x s [] [] stage k where
  world := rfl
  isAt := hs
  plain := by
    have hend : (x.always (step st none) s).2 = (step st none (x s).2).2 := by
      rcases hr : step st none (x s).2 with ⟨_ | _, t⟩ <;> simp [Job.always, hr]
    rw [hend] at h
    exact (h.split (hx.apply (.refl s)) ((enduring_leads.keeps_step st none).apply (.refl _))).1
  does hwork := hwork.always (step_does conn st hwork.isAt)

theorem openConnection_refused (hfaults : faults.Within IsDriverFault) {e : JobError} (he : faults.refusal? = some e)
    (hs : s.IsAt stage k) : Does conn (openConnection faults url body) s [] [] (.error (.job e)) stage k := by
  have hurl : Does conn (Job.note (.stepped (.url url))) s [] [] (.ok ()) stage k := .note hs ⟨rfl, rfl, rfl⟩
  have hcases := hfaults.cases
  obtain ⟨create, connect, _, _, _⟩ := faults
  obtain ⟨-, -, rfl, rfl, rfl⟩ := hfaults
  rcases hcases with ⟨d, rfl, hd⟩ | ⟨rfl, ⟨d, rfl, hd⟩ | ⟨-, hd⟩⟩
  · obtain rfl := Option.some.inj (hd.symm.trans he)
    exact hurl.bind ((step_fails conn .create _ hurl.isAt).mapFault _).bind_error
  · obtain rfl := Option.some.inj (hd.symm.trans he)
    have hengine := (step_does conn .create hurl.isAt).mapFault (wrapDriver .connection "Invalid database URL: ")
    refine hurl.bind (hengine.bind (Does.always ((step_fails conn .connect _ hengine.isAt).mapFault _).bind_error ?_))
    exact step_does conn .dispose (((step_fails conn .connect _ hengine.isAt).mapFault _).bind_error).isAt
  · cases hd.symm.trans he

/-- Over a connection that opens, the body does what it does alone. -/
theorem openConnection_reaches (hfaults : faults.Within IsDriverFault) (he : faults.refusal? = none)
    (hbody : ∀ t, Keeps (Session.Leads conn t) body) (hs : s.IsAt stage k)
    (h : s.Plain conn (openConnection faults url body s).2) :
    ∃ t, Reaches conn (openConnection faults url body) s body t [] [] stage k := by
  have hcases := hfaults.cases
  obtain ⟨create, connect, _, _, _⟩ := faults
  obtain ⟨-, -, rfl, rfl, rfl⟩ := hfaults
  rcases hcases with ⟨d, rfl, hd⟩ | ⟨rfl, ⟨d, rfl, hd⟩ | ⟨rfl, -⟩⟩
  · cases hd.symm.trans he
  · cases hd.symm.trans he
  · rw [openConnection_eq] at h ⊢
    have hconnected : ∀ t, Keeps (Session.Leads conn t) (connected none body) := fun t =>
      keeps_connected enduring_leads none (hbody t)
    have hopened : ∀ t, Keeps (Session.Leads conn t) (opened none none none body) := fun t =>
      keeps_opened enduring_leads none none none (hbody t)
    have hurl := h.reaches (.note hs ⟨rfl, rfl, rfl⟩) fun _ t =>
      .bind (.mapFault (enduring_leads.keeps_step _ _)) fun _ => .always (hopened t) (enduring_leads.keeps_step _ _)
    have hcreate := hurl.plain.reaches ((step_does conn .create hurl.isAt).mapFault _) fun _ t =>
      .always (hopened t) (enduring_leads.keeps_step _ _)
    have hdispose := always_reaches .dispose hcreate.isAt hcreate.plain (hopened _)
    have hconnect := hdispose.plain.reaches ((step_does conn .connect hdispose.isAt).mapFault _) fun _ t =>
      .always (hconnected t) (enduring_leads.keeps_step _ _)
    have hclose := always_reaches .close hconnect.isAt hconnect.plain (hconnected _)
    have hisolation := hclose.plain.reaches (.note hclose.isAt ⟨rfl, rfl, rfl⟩) fun _ t =>
      .bind (enduring_leads.keeps_step _ _) fun _ => hbody t
    have hoptions := hisolation.plain.reaches (step_does conn .options hisolation.isAt) fun _ => hbody
    exact ⟨_, hurl.trans (hcreate.trans (hdispose.trans (hconnect.trans (hclose.trans (hisolation.trans hoptions)))))⟩

end Opening

section Way

/-- The ways of a run from a world on: statements, records, end, last stage of its work and sums. The
connection does not open, a pass fails, the passes come to their end, or expired rows are counted. -/
inductive Way (conn : Connection σ) (refusal? : Option JobError) (dryRun : Value) (cutoff : Moment) (w : σ) :
    List Statement → List Log.Record → Except Fault Unit → Stage → Sums → Prop
  | unopened {e} (refused : refusal? = some e) : Way conn refusal? dryRun cutoff w [] [] (.error (.job e)) .init .zero
  | stopped {ps e} (opened : refusal? = none) (live : dryRun.holds = false)
      (passes : Passes conn cutoff (conn.after w [.stats]) ps) (failed : ps.findSome? Pass.error? = some e) :
      Way conn refusal? dryRun cutoff w (.stats :: ps.flatMap (Pass.statements conn.dialect cutoff))
        (stateRecord .statsBefore :: stateRecord .deleteLoop :: passesRecords 0 ps) (.error (.job e)) .deleteLoop
        (ps.foldl Sums.plus .zero)
  | finished {ps} (opened : refusal? = none) (live : dryRun.holds = false)
      (passes : Passes conn cutoff (conn.after w [.stats]) ps) (complete : ps.findSome? Pass.error? = none) :
      Way conn refusal? dryRun cutoff w (.stats :: (ps.flatMap (Pass.statements conn.dialect cutoff) ++ [.stats]))
        (stateRecord .statsBefore :: (stateRecord .deleteLoop :: passesRecords 0 ps ++ [stateRecord .statsAfter]))
        (.ok ()) .statsAfter (ps.foldl Sums.plus .zero)
  | counted (opened : refusal? = none) (dry : dryRun.holds = true) :
      Way conn refusal? dryRun cutoff w [.stats, .countClones cutoff, .countComposes cutoff, .stats]
        [stateRecord .statsBefore, stateRecord .dryRunReport, stateRecord .statsAfter] (.ok ()) .statsAfter .zero

/-- The work of a run over a connection that it opens goes one of the ways. -/
theorem openConnection_way {faults : StepFaults} {url : Text.Loose} {dryRun : Value} (hfaults : faults.Within IsDriverFault)
    (hs : s.IsAt .init .zero) (h : s.Plain conn (openConnection faults url (maintain conn dryRun cutoff) s).2) :
    ∃ sts recs r stage k, Way conn faults.refusal? dryRun cutoff s.world sts recs r stage k ∧
      Does conn (openConnection faults url (maintain conn dryRun cutoff)) s sts recs r stage k := by
  cases he : faults.refusal? with
  | some e => exact ⟨_, _, _, _, _, .unopened rfl, openConnection_refused hfaults he hs⟩
  | none =>
    obtain ⟨t, hopened⟩ := openConnection_reaches hfaults he (fun _ => enduring_leads.keeps_maintain cutoff dryRun) hs h
    obtain ⟨u, hreported⟩ := maintain_reaches hopened.isAt hopened.plain
    have hwork := hopened.trans hreported
    cases hdry : dryRun.holds with
    | true => exact ⟨_, _, _, _, _, .counted rfl hdry, hwork.does (undertake_dry hdry hwork.isAt hwork.plain)⟩
    | false =>
      obtain ⟨ps, hps, hfailed, hcomplete⟩ := undertake_live hdry hwork.isAt hwork.plain
      rw [hwork.world] at hps
      cases hend : ps.findSome? Pass.error? with
      | some e => exact ⟨_, _, _, _, _, .stopped rfl hdry hps hend, hwork.does (hfailed e hend)⟩
      | none => exact ⟨_, _, _, _, _, .finished rfl hdry hps hend, hwork.does (hcomplete hend)⟩

@[simp] theorem isNamed_doneRecord (name : String) (summary : Summary) :
    (doneRecord summary).isNamed name = ("maintenance.done" == name) := rfl

@[simp] theorem isNamed_abortedRecord (name : String) (e : JobError) (stage : Stage) (tally : Tally) :
    (abortedRecord e stage tally).isNamed name = ("maintenance.aborted" == name) := rfl

theorem leads_finish (cutoff : Moment) (dryRun : Value) (r : Except Fault Unit) (t : Session σ) :
    t.Leads conn (finish cutoff dryRun (r, t)).2 := by
  rcases r with (cause | e) | _
  · exact .refl t
  · exact enduring_leads.log _ (enduring_leads.enter _ (.refl t))
  · exact enduring_leads.log _ (enduring_leads.enter _ (.refl t))

theorem journal_starting (s : Session σ) :
    (starting s).journal = s.journal ++ [.logged (stateRecord .init), .clockRead] := by
  simp [starting, Session.note, Session.enter, Session.log, stateRecord]

theorem leads_starting (s : Session σ) : s.Leads conn (starting s) :=
  ⟨_, journal_starting s, rfl⟩

theorem leads_openConnection (conn : Connection σ) (faults : StepFaults) (url : Text.Loose) (dryRun : Value)
    (cutoff : Moment) (s : Session σ) :
    s.Leads conn (openConnection faults url (maintain conn dryRun cutoff) s).2 :=
  (keeps_openConnection enduring_leads.toSteady (enduring_leads.keeps_maintain cutoff _)).apply (.refl _)

theorem course_finish {es : List Event} {sts : List Statement} {recs : List Log.Record} (ht : Tells es sts recs)
    (last last' : Log.Record) (hlast : ¬ IsReport last) (hlast' : ¬ IsReport last') :
    let fs := [.logged (stateRecord .init), .clockRead] ++ es ++ [.logged last, .logged last']
    executed fs = sts ∧ clockReads fs = 1 ∧ course fs = stateRecord .init :: recs ++ [last, last'] := by
  have hinit : ¬ IsReport (stateRecord .init) := Bool.false_ne_true
  have hclock : es.countP Event.isClockRead = 0 := ht.clock
  refine ⟨?_, ?_, ?_⟩
  · rw [executed_append, executed_append, ht.executed]
    exact List.append_nil sts
  · simp [clockReads, List.countP_append, List.countP_cons, Event.isClockRead, hclock]
  · rw [course_append, course_append, ht.course]
    simp [course, logged, Event.record?, hinit, hlast, hlast']

theorem leads_run (conn : Connection σ) (faults : StepFaults) (plan : Plan) (now : Moment) (s : Session σ) :
    s.Leads conn (run ⟨conn, openConnection faults⟩ plan now s).2 := by
  cases hc : Calendar.cutoff now plan.months with
  | error e =>
    unfold run
    simp only [hc]
    exact leads_starting s
  | ok cutoff =>
    rw [run_eq_finish ⟨conn, openConnection faults⟩ hc]
    exact (leads_starting s).trans ((leads_openConnection ..).trans (leads_finish ..))

/-- A run that is answered plainly goes one of the ways and is done or aborted accordingly. -/
theorem run_way {faults : StepFaults} {plan : Plan} {now : Moment} (hfaults : faults.Within IsDriverFault)
    (hc : Calendar.cutoff now plan.months = .ok cutoff)
    (h : s.Plain conn (run ⟨conn, openConnection faults⟩ plan now s).2) :
    let r := run ⟨conn, openConnection faults⟩ plan now s
    ∃ sts recs stage k es, r.2.journal = s.journal ++ es ∧ executed es = sts ∧ clockReads es = 1 ∧
      r.2.world = conn.after s.world sts ∧ r.2.tally.HasSums k ∧
      ((Way conn faults.refusal? plan.dryRun cutoff s.world sts recs (.ok ()) stage k ∧
          r.1 = .done ⟨cutoff, plan.dryRun, r.2.tally⟩ ∧ r.2.stage = .done ∧
          course es = stateRecord .init :: recs ++
            [stateRecord .done, doneRecord ⟨cutoff, plan.dryRun, r.2.tally⟩]) ∨
        ∃ e, Way conn faults.refusal? plan.dryRun cutoff s.world sts recs (.error (.job e)) stage k ∧
          r.1 = .aborted e ⟨cutoff, plan.dryRun, r.2.tally⟩ ∧ r.2.stage = .aborted ∧
          course es = stateRecord .init :: recs ++ [stateRecord .aborted, abortedRecord e stage r.2.tally]) := by
  intro r
  let work : Job σ Unit := openConnection faults plan.url (maintain conn plan.dryRun cutoff)
  have hr : r = finish cutoff plan.dryRun (work (starting s)) := run_eq_finish ⟨conn, openConnection faults⟩ hc
  have hwork : (starting s).Leads conn (work (starting s)).2 := leads_openConnection ..
  have hplain : (starting s).Plain conn (work (starting s)).2 := by
    rw [show run _ plan now s = _ from hr] at h
    have hfinish : (work (starting s)).2.Leads conn (finish cutoff plan.dryRun (work (starting s))).2 :=
      leads_finish ..
    exact ((h.split (leads_starting s) (hwork.trans hfinish)).2.split hwork hfinish).1
  obtain ⟨sts, recs, result, stage, k, hway, hdoes⟩ := openConnection_way hfaults ⟨rfl, rfl, rfl, rfl⟩ hplain
  obtain ⟨es, hj, ht⟩ := hdoes.journal
  have hat := hdoes.isAt
  have hworld := hdoes.world
  rw [show work (starting s) = (result, (work (starting s)).2) from Prod.ext hdoes.result rfl] at hr
  generalize (work (starting s)).2 = t at hr hj hat hworld
  obtain ⟨rfl, hsums⟩ := hat
  have hjournal : t.journal = s.journal ++ ([.logged (stateRecord .init), .clockRead] ++ es) := by
    rw [hj, journal_starting, List.append_assoc]
  have hnote : ∀ (final : Stage) (rec : Log.Record), ((t.enter final).log rec).journal =
      s.journal ++ ([.logged (stateRecord .init), .clockRead] ++ es ++ [.logged (stateRecord final), .logged rec]) := by
    intro final rec
    rw [← List.append_assoc s.journal, ← hjournal]
    simp [Session.enter, Session.log, Session.note, stateRecord]
  rcases result with (cause | e) | _
  · cases hway
  · obtain ⟨hsts, hclock, hcourse⟩ := course_finish ht (stateRecord .aborted) (abortedRecord e t.stage t.tally)
      Bool.false_ne_true Bool.false_ne_true
    rw [hr]
    exact ⟨sts, recs, _, k, _, hnote _ _, hsts, hclock, hworld, hsums, .inr ⟨e, hway, rfl, rfl, hcourse⟩⟩
  · obtain ⟨hsts, hclock, hcourse⟩ := course_finish ht (stateRecord .done) (doneRecord ⟨cutoff, plan.dryRun, t.tally⟩)
      Bool.false_ne_true Bool.false_ne_true
    rw [hr]
    exact ⟨sts, recs, _, k, _, hnote _ _, hsts, hclock, hworld, hsums, .inl ⟨hway, rfl, rfl, hcourse⟩⟩

end Way
end Retention.Run
