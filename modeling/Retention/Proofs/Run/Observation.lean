import Retention.Proofs.Run.DryRun
import Retention.Proofs.Run.Pairs
import Retention.Proofs.Run.WriteOnly

/-! # Statistics only watch

Two connections differ in what they answer to the statistics query, and a view of their worlds shows no difference. Their
runs execute the same other statements, see the same after each of them and come to the same end, as long as what the
statistics query was answered can be observed at all.
-/

namespace Retention.Run

open Calendar Database Job

variable {σ σ' τ α : Type}

/-- As far as views of their worlds show, two connections differ in what they answer to the statistics query only. -/
structure SameButStats (conn : Connection σ) (conn' : Connection σ') (view : σ → τ) (view' : σ' → τ) : Prop where
  dialect : conn.dialect = conn'.dialect
  world : ∀ {w w'}, view w = view' w' → ∀ st, view (conn.execute st w).2 = view' (conn'.execute st w').2
  answer : ∀ {w w'}, view w = view' w' → ∀ {st}, st ≠ .stats → (conn.execute st w).1 = (conn'.execute st w').1

/-- The statements but for statistics, each with the view of the world after it. -/
def seen (conn : Connection σ) (view : σ → τ) (w : σ) : List Statement → List (Statement × τ)
  | [] => []
  | st :: rest =>
    (if st = .stats then [] else [(st, view (conn.execute st w).2)]) ++ seen conn view (conn.execute st w).2 rest

def Tally.work (t : Tally) : Tally :=
  { t with statsBefore := [], statsAfter := [] }

def Ending.work : Ending → Ending
  | .done summary => .done { summary with tally := summary.tally.work }
  | .aborted e summary => .aborted e { summary with tally := summary.tally.work }
  | .crashed cause => .crashed cause

/-- Every statistics query among the statements is answered by what can be observed. -/
def ObservedTo (conn : Connection σ) (w : σ) : List Statement → Prop
  | [] => True
  | st :: rest => (st = .stats → Observed (conn.execute st w).1) ∧ ObservedTo conn (conn.execute st w).2 rest

def Session.Observes (conn : Connection σ) (s t : Session σ) : Prop :=
  ∀ es, t.journal = s.journal ++ es → ObservedTo conn s.world (executed es)

section Observing

variable {conn : Connection σ} {s t u : Session σ}

theorem observedTo_append {w : σ} {sts sts' : List Statement} :
    ObservedTo conn w (sts ++ sts') ↔ ObservedTo conn w sts ∧ ObservedTo conn (conn.after w sts) sts' := by
  induction sts generalizing w with
  | nil => simp [ObservedTo]
  | cons st rest ih => simp [ObservedTo, ih, and_assoc]

theorem Session.Observes.split (h : s.Observes conn u) (hst : s.Leads conn t) (htu : t.Leads conn u) :
    s.Observes conn t ∧ t.Observes conn u := by
  obtain ⟨es, hj, hw⟩ := hst
  obtain ⟨es', hj', -⟩ := htu
  have hobserved : ObservedTo conn s.world (executed es ++ executed es') := by
    rw [← executed_append]
    exact h _ (by rw [hj', hj, List.append_assoc])
  obtain ⟨hfirst, hrest⟩ := observedTo_append.mp hobserved
  constructor
  · intro fs hf
    rwa [← List.append_cancel_left (hj.symm.trans hf)]
  · intro fs hf
    rwa [← List.append_cancel_left (hj'.symm.trans hf), hw]

/-- Statistics were asked for once, and nothing else was done. -/
structure Session.Polled (conn : Connection σ) (s t : Session σ) : Prop where
  journal : ∃ es, t.journal = s.journal ++ es ∧ executed es = [.stats]
  world : t.world = (conn.execute .stats s.world).2
  stage : t.stage = s.stage
  tally : t.tally = s.tally

theorem Session.Polled.leads (h : s.Polled conn t) : s.Leads conn t := by
  obtain ⟨es, hj, hes⟩ := h.journal
  exact ⟨es, hj, by rw [hes]; exact h.world⟩

theorem Session.Polled.observed (h : s.Polled conn t) (hobserves : s.Observes conn t) :
    Observed (conn.execute .stats s.world).1 := by
  obtain ⟨es, hj, hes⟩ := h.journal
  have hobserved := hobserves es hj
  rw [hes] at hobserved
  exact hobserved.1 rfl

theorem polled_statistics (conn : Connection σ) (s : Session σ) : s.Polled conn (statistics conn s).2 := by
  let P : Session σ → Prop := fun t => ∃ es, t.journal = s.journal ++ es ∧ executed es = [.stats]
  have hP : Steady P := by
    constructor
    · rintro t e he ⟨es, hj, hes⟩
      exact ⟨es ++ [e], by rw [Session.note, hj, List.append_assoc], by rw [executed_concat he, hes]⟩
    · exact fun _ h => h
  have hquery : Triple (· = s) (Job.execute conn .stats) (fun _ => P) (fun _ => P) := by
    apply Triple.execute
    · rintro t r w rfl -
      exact ⟨[.executed .stats, .answered], by simp [Session.note], rfl⟩
    · rintro t e w rfl -
      exact ⟨[.executed .stats], rfl, rfl⟩
  have hstatistics : Triple (· = s) (statistics conn) (fun _ => P) (fun _ => P) :=
    triple_statistics hP (triple_report hP hquery) (fun _ _ _ h => h) fun _ _ _ h => h
  have hasked := asked_statistics conn s
  refine ⟨(hstatistics s rfl).snd, hasked.world, ?_, hasked.tally⟩
  exact hasked.within.stage.resolve_right List.not_mem_nil

end Observing

/-- From two sessions on, two others have executed the same statements but for statistics, and have seen the same. -/
structure Abreast (conn : Connection σ) (conn' : Connection σ') (view : σ → τ) (view' : σ' → τ) (s : Session σ)
    (s' : Session σ') (t : Session σ) (t' : Session σ') : Prop where
  stage : t.stage = t'.stage
  work : t.tally.work = t'.tally.work
  world : view t.world = view' t'.world
  ways : ∃ es es', t.journal = s.journal ++ es ∧ t'.journal = s'.journal ++ es' ∧
    t.world = conn.after s.world (executed es) ∧ t'.world = conn'.after s'.world (executed es') ∧
    seen conn view s.world (executed es) = seen conn' view' s'.world (executed es')

section Steps

variable {conn : Connection σ} {conn' : Connection σ'} {view : σ → τ} {view' : σ' → τ} {s t : Session σ}
  {s' t' : Session σ'} {cutoff : Moment}

theorem seen_append (conn : Connection σ) (view : σ → τ) (w : σ) (sts sts' : List Statement) :
    seen conn view w (sts ++ sts') = seen conn view w sts ++ seen conn view (conn.after w sts) sts' := by
  induction sts generalizing w with
  | nil => rfl
  | cons st rest ih => simp [seen, ih]

namespace Abreast

theorem leads (h : Abreast conn conn' view view' s s' t t') : s.Leads conn t ∧ s'.Leads conn' t' := by
  obtain ⟨es, es', hj, hj', hw, hw', -⟩ := h.ways
  exact ⟨⟨es, hj, hw⟩, ⟨es', hj', hw'⟩⟩

theorem trans {u : Session σ} {u' : Session σ'} (h : Abreast conn conn' view view' s s' t t')
    (hu : Abreast conn conn' view view' t t' u u') : Abreast conn conn' view view' s s' u u' := by
  obtain ⟨es, es', hj, hj', hw, hw', hseen⟩ := h.ways
  obtain ⟨fs, fs', hk, hk', hv, hv', hseen'⟩ := hu.ways
  refine ⟨hu.stage, hu.work, hu.world, es ++ fs, es' ++ fs', ?_, ?_, ?_, ?_, ?_⟩
  · rw [hk, hj, List.append_assoc]
  · rw [hk', hj', List.append_assoc]
  · rw [executed_append, Connection.after_append, ← hw, hv]
  · rw [executed_append, Connection.after_append, ← hw', hv']
  · rw [executed_append, executed_append, seen_append, seen_append, ← hw, ← hw', hseen, hseen']

theorem note {e e' : Event} (h : Abreast conn conn' view view' s s' t t') (he : e.statement? = none)
    (he' : e'.statement? = none) : Abreast conn conn' view view' s s' (t.note e) (t'.note e') := by
  have hquiet : executed [e] = [] ∧ executed [e'] = [] := by simp [executed, he, he']
  refine h.trans ⟨h.stage, h.work, h.world, [e], [e'], rfl, rfl, ?_⟩
  rw [hquiet.1, hquiet.2]
  exact ⟨rfl, rfl, rfl⟩

theorem log (h : Abreast conn conn' view view' s s' t t') (r r' : Log.Record) :
    Abreast conn conn' view view' s s' (t.log r) (t'.log r') :=
  h.note rfl rfl

theorem enter (h : Abreast conn conn' view view' s s' t t') (stage : Stage) :
    Abreast conn conn' view view' s s' (t.enter stage) (t'.enter stage) := by
  have hstage : Abreast conn conn' view view' s s' { t with stage } { t' with stage } := ⟨rfl, h.work, h.world, h.ways⟩
  exact hstage.log _ _

theorem tally {k k' : Tally} (h : Abreast conn conn' view view' s s' t t') (hk : k.work = k'.work) :
    Abreast conn conn' view view' s s' { t with tally := k } { t' with tally := k' } :=
  ⟨h.stage, hk, h.world, h.ways⟩

theorem execute (same : SameButStats conn conn' view view') (h : Abreast conn conn' view view' s s' t t')
    (st : Statement) : Abreast conn conn' view view' s s' { t.note (.executed st) with world := (conn.execute st t.world).2 }
      { t'.note (.executed st) with world := (conn'.execute st t'.world).2 } := by
  refine h.trans ⟨h.stage, h.work, same.world h.world st, [.executed st], [.executed st], rfl, rfl, rfl, rfl, ?_⟩
  show (if st = .stats then [] else [(st, view (conn.execute st t.world).2)]) ++ [] =
    (if st = .stats then [] else [(st, view' (conn'.execute st t'.world).2)]) ++ []
  rw [same.world h.world st]

end Abreast

section Jobs

variable (same : SameButStats conn conn' view view')

theorem agree_note {e e' : Event} (he : e.statement? = none) (he' : e'.statement? = none) :
    Agree (Abreast conn conn' view view' s s') (Job.note e) (Job.note e') :=
  .change fun _ _ h => h.note he he'

theorem agree_log (r r' : Log.Record) : Agree (Abreast conn conn' view view' s s') (Job.log r) (Job.log r') :=
  .change fun _ _ h => h.log r r'

theorem agree_enter (stage : Stage) : Agree (Abreast conn conn' view view' s s') (Job.enter stage) (Job.enter stage) :=
  .change fun _ _ h => h.enter stage

theorem agree_count {f f' : Tally → Tally} (hf : ∀ k k', k.work = k'.work → (f k).work = (f' k').work) :
    Agree (Abreast conn conn' view view' s s') (Job.count f) (Job.count f') :=
  .change fun _ _ h => h.tally (hf _ _ h.work)

theorem agree_recount {f : Tally → Except Mishap Tally}
    (hf : ∀ k, (f k.work).map Tally.work = (f k).map Tally.work) :
    Agree (Abreast conn conn' view view' s s') (Job.recount f) (Job.recount f) := by
  intro t t' h
  have hwork : (f t.tally).map Tally.work = (f t'.tally).map Tally.work := by rw [← hf, h.work, hf]
  unfold Job.recount
  rcases hr : f t.tally with m | k <;> rcases hr' : f t'.tally with m' | k' <;> rw [hr, hr'] at hwork
  · obtain rfl : m = m' := Except.error.inj hwork
    exact ⟨rfl, h⟩
  · cases hwork
  · cases hwork
  · exact ⟨rfl, h.tally (Except.ok.inj hwork)⟩

theorem map_work_addClones (rows : Rows) (k : Tally) :
    (k.work.addClones rows).map Tally.work = (k.addClones rows).map Tally.work := by
  unfold Tally.addClones Tally.work
  cases addRows k.clonesDeleted rows <;> rfl

theorem map_work_addComposes (rows : Rows) (k : Tally) :
    (k.work.addComposes rows).map Tally.work = (k.addComposes rows).map Tally.work := by
  unfold Tally.addComposes Tally.work
  cases addRows k.composesDeleted rows <;> rfl

include same

theorem agree_execute {st : Statement} (hst : st ≠ .stats) :
    Agree (Abreast conn conn' view view' s s') (Job.execute conn st) (Job.execute conn' st) := by
  intro t t' h
  have hworld := h.execute same st
  have hanswer := same.answer h.world hst
  unfold Job.execute
  cases hr : (conn.execute st t.world).1 with
  | ok reply =>
    rw [hr] at hanswer
    simp only [hr, ← hanswer]
    exact ⟨rfl, hworld.note rfl rfl⟩
  | error e =>
    rw [hr] at hanswer
    simp only [hr, ← hanswer]
    exact ⟨rfl, hworld⟩

theorem agree_deleteExpired (table : Table) (cutoff : Moment) :
    Agree (Abreast conn conn' view view' s s') (deleteExpired conn table cutoff) (deleteExpired conn' table cutoff) := by
  have hst : table.deletion cutoff ≠ .stats := by cases table <;> simp [Table.deletion]
  exact .bind (.mapFault _ (agree_execute same hst)) fun _ => .bind (.ofExcept _) fun _ =>
    .bind (agree_log _ _) fun _ => .done _

theorem agree_executeAll {sts : List Statement} (hsts : ∀ st ∈ sts, st ≠ .stats) :
    Agree (Abreast conn conn' view view' s s') (executeAll conn sts) (executeAll conn' sts) := by
  induction sts with
  | nil => exact .done ()
  | cons st rest ih =>
    obtain ⟨hst, hrest⟩ := List.forall_mem_cons.mp hsts
    exact .bind (agree_execute same hst) fun _ => ih hrest

theorem agree_reclaim : Agree (Abreast conn conn' view view' s s') (reclaim conn) (reclaim conn') := by
  have hsts : ∀ st ∈ reclaimStatements conn.dialect, st ≠ .stats := by
    unfold reclaimStatements
    split <;> simp
  have hall : Agree (Abreast conn conn' view view' s s') (executeAll conn _) (executeAll conn' _) :=
    agree_executeAll same hsts
  unfold reclaim
  rw [← same.dialect]
  exact .bind (.mapFault _ hall) fun _ => agree_log _ _

theorem agree_pass (cutoff : Moment) :
    Agree (Abreast conn conn' view view' s s') (pass conn cutoff) (pass conn' cutoff) := by
  apply Agree.bind
  · exact agree_count fun k k' hk => congrArg (fun t : Tally => { t with iterations := t.iterations + 1 }) hk
  · intro _
    apply Agree.bind (agree_deleteExpired same _ _)
    intro clones
    apply Agree.bind (agree_recount (map_work_addClones clones))
    intro _
    apply Agree.bind (agree_deleteExpired same _ _)
    intro composes
    apply Agree.bind (agree_recount (map_work_addComposes composes))
    intro _
    exact .bind (agree_reclaim same) fun _ => .done _

theorem agree_deleteLoop (cutoff : Moment) :
    Agree (Abreast conn conn' view view' s s') (deleteLoop conn cutoff) (deleteLoop conn' cutoff) := by
  intro t t' h
  -- The loops go through their passes in step, so the recursion of one of them serves both.
  fun_induction Run.deleteLoop conn cutoff t generalizing t' with
  | case1 t e u hp =>
    obtain ⟨u', hp', hu⟩ := (agree_pass same cutoff).out h hp
    rw [deleteLoop_eq conn', hp']
    exact ⟨rfl, hu⟩
  | case2 t clones composes u hp hc =>
    obtain ⟨u', hp', hu⟩ := (agree_pass same cutoff).out h hp
    rw [deleteLoop_eq conn', hp']
    simp only [hc, if_true]
    exact ⟨rfl, hu⟩
  | case3 t clones composes u hp hc ih =>
    obtain ⟨u', hp', hu⟩ := (agree_pass same cutoff).out h hp
    rw [deleteLoop_eq conn', hp']
    simp only [hc]
    exact ih _ (hu.log _ _)

theorem agree_countExpired (table : Table) (cutoff : Moment) :
    Agree (Abreast conn conn' view view' s s') (countExpired conn table cutoff) (countExpired conn' table cutoff) := by
  have hst : table.count cutoff ≠ .stats := by cases table <;> simp [Table.count]
  apply Agree.bind _ fun _ => .ofExcept _
  apply Agree.mapFault
  apply Agree.bind (agree_execute same hst)
  intro reply
  unfold scalar
  split
  · exact .done _
  · exact .fail _

theorem agree_expectedCount (table : Table) (cutoff : Moment) :
    Agree (Abreast conn conn' view view' s s') (expectedCount conn table cutoff) (expectedCount conn' table cutoff) := by
  intro t t' h
  obtain ⟨hend, hu⟩ := agree_countExpired same table cutoff t t' h
  rw [expectedCount_eq, expectedCount_eq, ← hend, ← hu.stage]
  refine ⟨rfl, ?_⟩
  cases countWarning? (countExpired conn table cutoff t).1 (countExpired conn table cutoff t).2.stage with
  | none => exact hu
  | some r => exact hu.log r r

theorem agree_dryRunReport (cutoff : Moment) :
    Agree (Abreast conn conn' view view' s s') (dryRunReport conn cutoff) (dryRunReport conn' cutoff) := by
  apply Agree.bind (agree_expectedCount same _ _)
  intro clones
  apply Agree.bind
  · exact agree_count fun k k' hk => congrArg (fun t : Tally => { t with expiredClones := clones }) hk
  · intro _
    apply Agree.bind (agree_expectedCount same _ _)
    intro composes
    apply Agree.bind
    · exact agree_count fun k k' hk => congrArg (fun t : Tally => { t with expiredComposes := composes }) hk
    · exact fun _ => agree_log _ _

end Jobs

section Watching

/-- From wherever it starts, the job goes on by its statements. -/
def Tracked (conn : Connection σ) (x : Job σ α) : Prop :=
  ∀ t, Keeps (Session.Leads conn t) x

/-- The jobs agree as long as the statistics that either of them asks for can be observed. -/
structure Watched (conn : Connection σ) (conn' : Connection σ') (view : σ → τ) (view' : σ' → τ) (s : Session σ)
    (s' : Session σ') (x : Job σ α) (x' : Job σ' α) : Prop where
  tracked : Tracked conn x
  tracked' : Tracked conn' x'
  together : ∀ t t', Abreast conn conn' view view' s s' t t' → t.Observes conn (x t).2 →
    t'.Observes conn' (x' t').2 → Together (Abreast conn conn' view view' s s') (x t) (x' t')

variable {x : Job σ α} {x' : Job σ' α} {f : α → Job σ Unit} {f' : α → Job σ' Unit}

theorem Tracked.observes_rest {a : α} {u : Session σ} (hx : Tracked conn x) (hf : ∀ a, Tracked conn (f a))
    (h : t.Observes conn ((x >>= f) t).2) (hr : x t = (.ok a, u)) : u.Observes conn (f a u).2 := by
  rw [bind_of_ok hr] at h
  have htu : t.Leads conn u := by simpa [hr] using (hx t).apply (.refl t)
  exact (h.split htu ((hf a u).apply (.refl u))).2

theorem tracked_enter (conn : Connection σ) (stage : Stage) : Tracked conn (Job.enter stage) :=
  fun _ => enduring_leads.triple_enter stage

theorem tracked_count (conn : Connection σ) (f : Tally → Tally) : Tracked conn (Job.count f) :=
  fun _ => enduring_leads.keeps_count f

theorem tracked_statistics (conn : Connection σ) : Tracked conn (statistics conn) :=
  fun _ => enduring_leads.keeps_statistics

namespace Watched

theorem of_agree (hx : Agree (Abreast conn conn' view view' s s') x x') (kx : Tracked conn x) (kx' : Tracked conn' x') :
    Watched conn conn' view view' s s' x x' :=
  ⟨kx, kx', fun t t' h _ _ => hx t t' h⟩

theorem bind (hx : Agree (Abreast conn conn' view view' s s') x x') (kx : Tracked conn x) (kx' : Tracked conn' x')
    (hf : ∀ a, Watched conn conn' view view' s s' (f a) (f' a)) :
    Watched conn conn' view view' s s' (x >>= f) (x' >>= f') := by
  have kf : ∀ a, Tracked conn (f a) := fun a => (hf a).tracked
  have kf' : ∀ a, Tracked conn' (f' a) := fun a => (hf a).tracked'
  constructor
  · exact fun t => .bind (kx t) fun a => kf a t
  · exact fun t' => .bind (kx' t') fun a => kf' a t'
  · intro t t' h hobs hobs'
    refine (hx t t' h).bind fun a u u' hr hr' hu => (hf a).together u u' hu ?_ ?_
    · exact kx.observes_rest kf hobs hr
    · exact kx'.observes_rest kf' hobs' hr'

end Watched

variable (same : SameButStats conn conn' view view')

include same

theorem Abreast.polled {u : Session σ} {u' : Session σ'} (h : Abreast conn conn' view view' s s' t t')
    (hu : t.Polled conn u) (hu' : t'.Polled conn' u') : Abreast conn conn' view view' s s' u u' := by
  obtain ⟨es, hj, hes⟩ := hu.journal
  obtain ⟨es', hj', hes'⟩ := hu'.journal
  refine h.trans ⟨?_, ?_, ?_, es, es', hj, hj', ?_, ?_, ?_⟩
  · rw [hu.stage, hu'.stage, h.stage]
  · rw [hu.tally, hu'.tally, h.work]
  · rw [hu.world, hu'.world, same.world h.world]
  · rw [hes]
    exact hu.world
  · rw [hes']
    exact hu'.world
  · rw [hes, hes']
    rfl

/-- Statistics that can be observed do not part the jobs behind them, whatever they are. -/
theorem watched_statistics {f : List TableStat → Job σ Unit} {f' : List TableStat → Job σ' Unit}
    (hf : ∀ stats stats', Watched conn conn' view view' s s' (f stats) (f' stats')) :
    Watched conn conn' view view' s s' (statistics conn >>= f) (statistics conn' >>= f') := by
  have kf : ∀ stats, Tracked conn (f stats) := fun stats => (hf stats stats).tracked
  have kf' : ∀ stats, Tracked conn' (f' stats) := fun stats => (hf stats stats).tracked'
  constructor
  · exact fun t => .bind (tracked_statistics conn t) fun stats => kf stats t
  · exact fun t' => .bind (tracked_statistics conn' t') fun stats => kf' stats t'
  · intro t t' h hobs hobs'
    have hpolled := polled_statistics conn t
    have hpolled' := polled_statistics conn' t'
    have hasked := (hobs.split hpolled.leads (leads_bind _ kf)).1
    have hasked' := (hobs'.split hpolled'.leads (leads_bind _ kf')).1
    obtain ⟨stats, hok⟩ := statistics_of_observed (hpolled.observed hasked)
    obtain ⟨stats', hok'⟩ := statistics_of_observed (hpolled'.observed hasked')
    have hr : statistics conn t = (.ok stats, (statistics conn t).2) := Prod.ext hok rfl
    have hr' : statistics conn' t' = (.ok stats', (statistics conn' t').2) := Prod.ext hok' rfl
    have hrest := (tracked_statistics conn).observes_rest kf hobs hr
    have hrest' := (tracked_statistics conn').observes_rest kf' hobs' hr'
    rw [bind_of_ok hr, bind_of_ok hr']
    exact (hf stats stats').together _ _ (h.polled same hpolled hpolled') hrest hrest'

theorem watched_conclude : Watched conn conn' view view' s s' (conclude conn) (conclude conn') := by
  apply Watched.bind (agree_enter _) (tracked_enter _ _) (tracked_enter _ _)
  intro _
  apply watched_statistics same
  intro after after'
  apply Watched.of_agree _ (tracked_count _ _) (tracked_count _ _)
  apply agree_count
  exact fun k k' hk => hk

theorem watched_undertake (dryRun : Value) (cutoff : Moment) :
    Watched conn conn' view view' s s' (undertake conn dryRun cutoff) (undertake conn' dryRun cutoff) := by
  unfold undertake
  split
  · apply Watched.bind (agree_enter _) (tracked_enter _ _) (tracked_enter _ _)
    intro _
    apply Watched.bind (agree_dryRunReport same cutoff)
    · exact fun _ => enduring_leads.keeps_dryRunReport cutoff
    · exact fun _ => enduring_leads.keeps_dryRunReport cutoff
    · exact fun _ => watched_conclude same
  · apply Watched.bind (agree_enter _) (tracked_enter _ _) (tracked_enter _ _)
    intro _
    apply Watched.bind (agree_deleteLoop same cutoff)
    · exact fun _ => enduring_leads.keeps_deleteLoop cutoff
    · exact fun _ => enduring_leads.keeps_deleteLoop cutoff
    · exact fun _ => watched_conclude same

theorem watched_maintain (dryRun : Value) (cutoff : Moment) :
    Watched conn conn' view view' s s' (maintain conn dryRun cutoff) (maintain conn' dryRun cutoff) := by
  rw [maintain_eq, maintain_eq]
  apply Watched.bind (agree_enter _) (tracked_enter _ _) (tracked_enter _ _)
  intro _
  apply watched_statistics same
  intro before before'
  have hcount : Agree (Abreast conn conn' view view' s s') (Job.count fun t => { t with statsBefore := before })
      (Job.count fun t => { t with statsBefore := before' }) := agree_count fun k k' hk => hk
  exact .bind hcount (tracked_count _ _) (tracked_count _ _) fun _ => watched_undertake same dryRun cutoff

end Watching

section Runs

variable {faults : StepFaults} {plan : Plan} {now : Moment} {url : Text.Loose} {body : Job σ Unit} {body' : Job σ' Unit}

theorem agree_step (st : Step) (fault : Option Fault) :
    Agree (Abreast conn conn' view view' s s') (step st fault) (step st fault) :=
  .bind (agree_note rfl rfl) fun _ => .failIf _

theorem agree_openConnection (faults : StepFaults) (url : Text.Loose)
    (hbody : Agree (Abreast conn conn' view view' s s') body body') :
    Agree (Abreast conn conn' view view' s s') (openConnection faults url body) (openConnection faults url body') := by
  rw [openConnection_eq, openConnection_eq]
  apply Agree.bind (agree_note rfl rfl)
  intro _
  apply Agree.bind (.mapFault _ (agree_step _ _))
  intro _
  apply Agree.always _ (agree_step _ _)
  apply Agree.bind (.mapFault _ (agree_step _ _))
  intro _
  apply Agree.always _ (agree_step _ _)
  exact .bind (agree_note rfl rfl) fun _ => .bind (agree_step _ _) fun _ => hbody

theorem openConnection_unentered (h : ¬ (faults.create = none ∧ faults.connect = none ∧ faults.options = none))
    (body body' : Job σ Unit) : openConnection faults url body = openConnection faults url body' := by
  obtain ⟨create, connect, options, close, dispose⟩ := faults
  cases create with
  | some f => rfl
  | none =>
    cases connect with
    | some f => rfl
    | none =>
      cases options with
      | some f => rfl
      | none => exact absurd ⟨rfl, rfl, rfl⟩ h

theorem Abreast.entered (h : Abreast conn conn' view view' s s' t t') (url : Text.Loose) :
    Abreast conn conn' view view' s s' (Run.entered url t) (Run.entered url t') :=
  ((((h.note rfl rfl).note rfl rfl).note rfl rfl).note rfl rfl).note rfl rfl

theorem Abreast.left (h : Abreast conn conn' view view' s s' t t') :
    Abreast conn conn' view view' s s' (Run.left t) (Run.left t') :=
  (h.note rfl rfl).note rfl rfl

theorem Abreast.starting (hworld : view s.world = view' s'.world) :
    Abreast conn conn' view view' s s' (Run.starting s) (Run.starting s') := by
  have hstart : Abreast conn conn' view view' s s' { s with stage := .init, tally := .zero }
      { s' with stage := .init, tally := .zero } :=
    ⟨rfl, rfl, hworld, [], [], (List.append_nil _).symm, (List.append_nil _).symm, rfl, rfl, rfl⟩
  exact (hstart.log _ _).note rfl rfl

theorem Abreast.finish (h : Abreast conn conn' view view' s s' t t') (cutoff : Moment) (dryRun : Value)
    (r : Except Fault Unit) :
    (Run.finish cutoff dryRun (r, t)).1.work = (Run.finish cutoff dryRun (r, t')).1.work ∧
      Abreast conn conn' view view' s s' (Run.finish cutoff dryRun (r, t)).2 (Run.finish cutoff dryRun (r, t')).2 := by
  rcases r with (cause | e) | _
  · exact ⟨rfl, h⟩
  · refine ⟨?_, (h.enter .aborted).log _ _⟩
    simp only [Run.finish, Ending.work, h.work]
  · refine ⟨?_, (h.enter .done).log _ _⟩
    simp only [Run.finish, Ending.work, h.work]

theorem openConnection_together (hbody : Watched conn conn' view view' s s' body body')
    (h : Abreast conn conn' view view' s s' t t') (hobs : t.Observes conn (openConnection faults url body t).2)
    (hobs' : t'.Observes conn' (openConnection faults url body' t').2) :
    Together (Abreast conn conn' view view' s s') (openConnection faults url body t)
      (openConnection faults url body' t') := by
  by_cases hopen : faults.create = none ∧ faults.connect = none ∧ faults.options = none
  · obtain ⟨hcreate, hconnect, hoptions⟩ := hopen
    rw [openConnection_entered hcreate hconnect hoptions] at hobs hobs' ⊢
    rw [openConnection_entered hcreate hconnect hoptions]
    have hpart : ∀ {σ : Type} {conn : Connection σ} {body : Job σ Unit} {t : Session σ}, Tracked conn body →
        t.Observes conn (Run.left (body (Run.entered url t)).2) →
          (Run.entered url t).Observes conn (body (Run.entered url t)).2 := fun hbody hobs =>
      ((hobs.split (leads_entered url _) (((hbody _).apply (.refl _)).trans (leads_left _))).2.split
        ((hbody _).apply (.refl _)) (leads_left _)).1
    obtain ⟨hend, hu⟩ := hbody.together _ _ (h.entered url) (hpart hbody.tracked hobs) (hpart hbody.tracked' hobs')
    exact ⟨by rw [hend], hu.left⟩
  · rw [openConnection_unentered hopen body (.done ()), openConnection_unentered hopen body' (.done ())]
    exact agree_openConnection faults url (.done ()) t t' h

/-- Whatever two runs can observe of statistics, it makes no difference to what else they execute, to what they see after
each statement, to what they count and to how they end. -/
theorem run_undisturbed (same : SameButStats conn conn' view view') (faults : StepFaults) (plan : Plan) (now : Moment)
    (hworld : view s.world = view' s'.world)
    (hobs : s.Observes conn (run ⟨conn, openConnection faults⟩ plan now s).2)
    (hobs' : s'.Observes conn' (run ⟨conn', openConnection faults⟩ plan now s').2) :
    let r := run ⟨conn, openConnection faults⟩ plan now s
    let r' := run ⟨conn', openConnection faults⟩ plan now s'
    Abreast conn conn' view view' s s' r.2 r'.2 ∧ r.1.work = r'.1.work := by
  have hstart : Abreast conn conn' view view' s s' (starting s) (starting s') := .starting hworld
  cases hc : Calendar.cutoff now plan.months with
  | error e =>
    rw [run_of_error hc, run_of_error hc]
    exact ⟨hstart, rfl⟩
  | ok cutoff =>
    rw [run_eq_finish ⟨conn, openConnection faults⟩ hc] at hobs ⊢
    rw [run_eq_finish ⟨conn', openConnection faults⟩ hc] at hobs' ⊢
    have hopened := (hobs.split (leads_starting s) ((leads_openConnection ..).trans (leads_finish ..))).2
    have hopened' := (hobs'.split (leads_starting s') ((leads_openConnection ..).trans (leads_finish ..))).2
    obtain ⟨hend, hu⟩ := openConnection_together (watched_maintain same plan.dryRun cutoff) hstart
      (hopened.split (leads_openConnection ..) (leads_finish ..)).1
      (hopened'.split (leads_openConnection ..) (leads_finish ..)).1
    dsimp only
    generalize openConnection faults plan.url (maintain conn plan.dryRun cutoff) (starting s) = p at hend hu ⊢
    generalize openConnection faults plan.url (maintain conn' plan.dryRun cutoff) (starting s') = p' at hend hu ⊢
    obtain ⟨r, u⟩ := p
    obtain ⟨r', u'⟩ := p'
    obtain rfl : r = r' := hend
    obtain ⟨hwork, hfinished⟩ := hu.finish cutoff plan.dryRun r
    exact ⟨hfinished, hwork⟩

end Runs

end Steps

section Trials

def unscripted (t : Trial) : Trial :=
  { t with stats := [] }

theorem execute_with_stats {st : Statement} (hst : st ≠ .stats) (t : Trial) (stats : List (Except Fault Reply)) :
    ({ t with stats } : Trial).execute st = ((t.execute st).1, { (t.execute st).2 with stats }) := by
  have harrive : ({ t with stats } : Trial).arrive = (t.arrive.1, { t.arrive.2 with stats }) := rfl
  have hslot : ({ t with stats } : Trial).slot = t.slot := rfl
  unfold Trial.execute
  rw [harrive, hslot]
  rcases t.arrive with ⟨e | _, arrived⟩
  · rfl
  · cases t.slot.fault with
    | some f => rfl
    | none =>
      show ({ arrived with stats } : Trial).answer st = ((arrived.answer st).1, { (arrived.answer st).2 with stats })
      rw [Trial.answer_performed fun h => absurd h hst, Trial.answer_performed fun h => absurd h hst]
      rfl

theorem unscripted_execute_stats (t : Trial) : unscripted (t.execute .stats).2 = unscripted t.arrive.2 := by
  rcases Trial.execute_cases t .stats with ⟨f, hx⟩ | hx
  · rw [hx]
  · rw [hx]
    cases hs : t.arrive.2.stats with
    | cons reply rest =>
      rw [Trial.answer_scripted hs]
      rfl
    | nil =>
      rw [Trial.answer_performed fun _ => hs, Trial.perform]
      split <;> rfl

theorem sameButStats_trial (dialect : String) :
    SameButStats (Trial.connection dialect) (Trial.connection dialect) unscripted unscripted := by
  have hother : ∀ {t t'}, unscripted t = unscripted t' → t' = { t with stats := t'.stats } := by
    rintro ⟨store, upcoming, stats, isReadOnly⟩ ⟨store', upcoming', stats', isReadOnly'⟩ h
    cases h
    rfl
  constructor
  · rfl
  · intro t t' h st
    by_cases hst : st = .stats
    · subst hst
      have harrive : unscripted t'.arrive.2 = unscripted t.arrive.2 := by
        rw [hother h]
        rfl
      exact (unscripted_execute_stats t).trans (harrive.symm.trans (unscripted_execute_stats t').symm)
    · have hx := execute_with_stats hst t t'.stats
      rw [← hother h] at hx
      have hafter := congrArg (fun p => unscripted p.2) hx
      exact hafter.symm
  · intro t t' h st hst
    have hx := execute_with_stats hst t t'.stats
    rw [← hother h] at hx
    have hanswer := congrArg Prod.fst hx
    exact hanswer.symm

theorem observedTo_trial (dialect : String) {t : Trial} (hquiet : t.upcoming = []) (hstats : ∀ r ∈ t.stats, Observed r)
    (sts : List Statement) : ObservedTo (Trial.connection dialect) t sts := by
  induction sts generalizing t with
  | nil => trivial
  | cons st rest ih =>
    have hx : t.execute st = t.answer st := by
      obtain ⟨store, upcoming, stats, isReadOnly⟩ := t
      obtain rfl : upcoming = [] := hquiet
      rfl
    show (st = .stats → Observed (t.execute st).1) ∧ ObservedTo (Trial.connection dialect) (t.execute st).2 rest
    rw [hx]
    by_cases hscript : st = .stats → t.stats = []
    · rw [Trial.answer_performed hscript]
      refine ⟨?_, ih hquiet hstats⟩
      rintro rfl
      unfold Trial.perform
      split <;> exact ⟨_, rfl⟩
    · obtain ⟨rfl, hne⟩ := Classical.not_imp.mp hscript
      obtain ⟨r, script, hs⟩ := List.exists_cons_of_ne_nil hne
      rw [hs] at hstats
      rw [Trial.answer_scripted hs]
      exact ⟨fun _ => hstats r List.mem_cons_self, ih hquiet fun r' hr' => hstats r' (List.mem_cons_of_mem r hr')⟩

/-- An old compose with its clone; the first statistics query fails, and the second is answered by a row that is none. -/
def unreadable : Trial where
  store := ⟨some [⟨some "a", some "1969-10-31"⟩], some [some "a"], true⟩
  upcoming := []
  stats := [.error (.outside (.driver ⟨.operational, none, "permission denied"⟩)), .ok { Reply.empty with rows := [.int 3] }]
  isReadOnly := false

theorem observed_unreadable : ∀ r ∈ unreadable.stats, Observed r := by
  have hrow : obstacle? [.int 3] none = some (.outside (.mishap (BadStatRow.noLength "int").toMishap)) := rfl
  intro r hr
  rcases List.mem_cons.mp hr with rfl | hr
  · exact ⟨_, rfl⟩
  · obtain rfl := List.mem_singleton.mp hr
    refine ⟨rfl, ?_⟩
    rintro f hf
    exact ⟨_, (Option.some.inj (hrow.symm.trans hf)).symm, rfl⟩

/-- The rows are deleted just as they are without the script. -/
theorem run_unreadable :
    let run (t : Trial) := run ⟨Trial.connection "sqlite", openConnection .none⟩ ⟨"", .bool false, .int 0⟩
      (.ofEpochMicros 0) (.start t)
    Abreast (Trial.connection "sqlite") (Trial.connection "sqlite") unscripted unscripted (.start unreadable)
        (.start (unscripted unreadable)) (run unreadable).2 (run (unscripted unreadable)).2 ∧
      (run unreadable).1.work = (run (unscripted unreadable)).1.work ∧
      (run unreadable).2.tally.composesDeleted = .whole 1 := by
  intro run
  have hobs : (Session.start unreadable).Observes (Trial.connection "sqlite") (run unreadable).2 := fun _ _ =>
    observedTo_trial "sqlite" rfl observed_unreadable _
  have hobs' : (Session.start (unscripted unreadable)).Observes (Trial.connection "sqlite")
      (run (unscripted unreadable)).2 := fun _ _ =>
    observedTo_trial "sqlite" rfl (fun _ hr => absurd hr List.not_mem_nil) _
  have hworld : unscripted (Session.start unreadable).world =
      unscripted (Session.start (unscripted unreadable)).world := rfl
  obtain ⟨habreast, hwork⟩ := run_undisturbed (sameButStats_trial "sqlite") .none ⟨"", .bool false, .int 0⟩
    (.ofEpochMicros 0) hworld hobs hobs'
  exact ⟨habreast, hwork, by decide +kernel⟩

end Trials

end Retention.Run
