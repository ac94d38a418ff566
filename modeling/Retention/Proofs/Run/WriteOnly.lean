import Retention.Proofs.Log.Redaction
import Retention.Proofs.Run.Course
import Retention.Proofs.Run.Pairs
import Retention.Run.Journal

/-! # The journal is only written

Jobs add events to the journal and never look at it, so what they do depends on the world, the stage
and the tally alone. Two runs that start alike and open their targets with the same faults end
alike, whatever the URLs of the targets are.
-/

namespace Retention.Run

open Calendar Database

variable {σ α β : Type} (conn : Connection σ)

namespace Job

/-- From sessions that differ in their journals only, the job does the same and adds the same
events. -/
def WriteOnly (x : Job σ α) : Prop :=
  ∀ s, ∃ es, ∀ journal, x { s with journal } = ((x s).1, { (x s).2 with journal := journal ++ es })

namespace WriteOnly

theorem done (a : α) : WriteOnly (Job.done a : Job σ α) :=
  fun s => ⟨[], fun journal => by simp [Job.done]⟩

theorem fail (e : Fault) : WriteOnly (Job.fail e : Job σ α) :=
  fun s => ⟨[], fun journal => by simp [Job.fail]⟩

theorem failIf (fault : Option Fault) : WriteOnly (Job.failIf fault : Job σ Unit) := by
  cases fault with
  | none => exact .done ()
  | some e => exact .fail e

theorem ofExcept (r : Except Mishap α) : WriteOnly (Job.ofExcept r : Job σ α) := by
  cases r with
  | ok a => exact .done a
  | error m => exact .fail _

theorem note (e : Event) : WriteOnly (Job.note e : Job σ Unit) :=
  fun _ => ⟨[e], fun _ => rfl⟩

theorem log (r : Log.Record) : WriteOnly (Job.log r : Job σ Unit) :=
  .note (.logged r)

theorem enter (stage : Stage) : WriteOnly (Job.enter stage : Job σ Unit) :=
  fun _ => ⟨[_], fun _ => rfl⟩

theorem count (f : Tally → Tally) : WriteOnly (Job.count f : Job σ Unit) :=
  fun s => ⟨[], fun journal => by simp [Job.count, Job.change]⟩

theorem recount (f : Tally → Except Mishap Tally) : WriteOnly (Job.recount f : Job σ Unit) := by
  refine fun s => ⟨[], fun journal => ?_⟩
  cases h : f s.tally <;> simp [Job.recount, h]

theorem execute (st : Statement) : WriteOnly (Job.execute conn st) := by
  intro s
  cases h : (conn.execute st s.world).1 with
  | ok r => exact ⟨[.executed st, .answered], fun journal => by simp [Job.execute, h, Session.note]⟩
  | error e => exact ⟨[.executed st], fun journal => by simp [Job.execute, h, Session.note]⟩

theorem bind {x : Job σ α} {f : α → Job σ β} (hx : WriteOnly x) (hf : ∀ a, WriteOnly (f a)) :
    WriteOnly (x >>= f) := by
  intro s
  obtain ⟨es, h⟩ := hx s
  rcases hr : x s with ⟨e | a, t⟩
  · refine ⟨es, fun journal => ?_⟩
    have hj := h journal
    rw [hr] at hj
    rw [bind_of_error hr, bind_of_error hj]
  · obtain ⟨es', h'⟩ := hf a t
    refine ⟨es ++ es', fun journal => ?_⟩
    have hj := h journal
    rw [hr] at hj
    rw [bind_of_ok hr, bind_of_ok hj, h', List.append_assoc]

theorem mapFault {x : Job σ α} (f : Fault → Fault) (hx : WriteOnly x) :
    WriteOnly (x.mapFault f) := by
  intro s
  obtain ⟨es, h⟩ := hx s
  refine ⟨es, fun journal => ?_⟩
  simp only [Job.mapFault, h journal]

theorem always {x : Job σ α} {cleanup : Job σ Unit} (hx : WriteOnly x) (hc : WriteOnly cleanup) :
    WriteOnly (x.always cleanup) := by
  intro s
  obtain ⟨es, h⟩ := hx s
  obtain ⟨es', h'⟩ := hc (x s).2
  refine ⟨es ++ es', fun journal => ?_⟩
  rcases hr : cleanup (x s).2 with ⟨_ | _, t⟩ <;>
    simp only [Job.always, h journal, h' (journal ++ es), hr, List.append_assoc]

theorem handle {x : Job σ α} {y : Job σ β} (hx : WriteOnly x) (ending : Except Fault α → Except Fault β)
    (record? : Except Fault α → Stage → Option Log.Record)
    (hy : ∀ s, y s = (ending (x s).1, ((record? (x s).1 (x s).2.stage).map (x s).2.log).getD (x s).2)) :
    WriteOnly y := by
  intro s
  obtain ⟨es, h⟩ := hx s
  cases hr : record? (x s).1 (x s).2.stage with
  | none => exact ⟨es, fun journal => by simp [hy, h journal, hr]⟩
  | some r => exact ⟨es ++ [.logged r], fun journal => by simp [hy, h journal, hr, Session.log, Session.note]⟩

end WriteOnly
end Job

open Job

theorem writeOnly_readRows (rows : List Value) (fault : Option Fault) :
    WriteOnly (readRows .none rows fault : Job σ _) := by
  induction rows with
  | nil => exact .bind (.failIf _) fun _ => .done _
  | cons row rest ih =>
    exact .bind (.ofExcept _) fun _ => .bind (.log _) fun _ => .bind ih fun _ => .done _

theorem writeOnly_close (reply : Reply) : WriteOnly (Job.close reply : Job σ Unit) :=
  .bind (.note _) fun _ => .failIf _

theorem writeOnly_report : WriteOnly (report conn) :=
  .bind (.mapFault _ (.execute conn _)) fun _ =>
    .always (.mapFault _ (writeOnly_readRows _ _)) (writeOnly_close _)

def reported : Except Fault (List TableStat) → Except Fault (List TableStat)
  | .error (.job ⟨.stats, _, _⟩) => .ok []
  | r => r

def reportWarning? : Except Fault (List TableStat) → Stage → Option Log.Record
  | .error (.job ⟨.stats, message, _⟩), stage =>
    some (.warning "stats.error" [("error", .text message), ("state", .text stage.word)])
  | _, _ => none

theorem writeOnly_statistics : WriteOnly (statistics conn) := by
  apply WriteOnly.handle (writeOnly_report conn) reported reportWarning?
  intro s
  unfold statistics
  rcases report conn s with ⟨(_ | ⟨_ | _ | _ | _ | _ | _, _, _⟩) | _, _⟩ <;> rfl

theorem writeOnly_countExpired (table : Table) (cutoff : Moment) :
    WriteOnly (countExpired conn table cutoff) := by
  apply WriteOnly.bind _ fun _ => .ofExcept _
  apply WriteOnly.mapFault
  apply WriteOnly.bind (.execute conn _)
  intro reply
  unfold scalar
  split
  · exact .done _
  · exact .fail _

def counted : Except Fault Int → Except Fault (Option Int)
  | .ok n => .ok (some n)
  | .error (.job ⟨.count _, _, _⟩) => .ok none
  | .error e => .error e

def countWarning? : Except Fault Int → Stage → Option Log.Record
  | .error (.job ⟨.count table, message, _⟩), _ =>
    some (.warning "dry_run.count_error" [("table", table), ("error", .text message)])
  | _, _ => none

theorem expectedCount_eq (table : Table) (cutoff : Moment) (s : Session σ) :
    let p := countExpired conn table cutoff s
    expectedCount conn table cutoff s = (counted p.1, ((countWarning? p.1 p.2.stage).map p.2.log).getD p.2) := by
  unfold expectedCount
  rcases countExpired conn table cutoff s with ⟨(_ | ⟨_ | _ | _ | _ | _ | _, _, _⟩) | _, _⟩ <;> rfl

theorem writeOnly_expectedCount (table : Table) (cutoff : Moment) :
    WriteOnly (expectedCount conn table cutoff) :=
  .handle (writeOnly_countExpired conn table cutoff) counted countWarning? (expectedCount_eq conn table cutoff)

theorem writeOnly_dryRunReport (cutoff : Moment) : WriteOnly (dryRunReport conn cutoff) :=
  .bind (writeOnly_expectedCount conn _ _) fun _ => .bind (.count _) fun _ =>
    .bind (writeOnly_expectedCount conn _ _) fun _ => .bind (.count _) fun _ => .log _

theorem writeOnly_deleteExpired (table : Table) (cutoff : Moment) :
    WriteOnly (deleteExpired conn table cutoff) :=
  .bind (.mapFault _ (.execute conn _)) fun _ => .bind (.ofExcept _) fun _ => .bind (.log _) fun _ => .done _

theorem writeOnly_executeAll (sts : List Statement) : WriteOnly (executeAll conn sts) := by
  induction sts with
  | nil => exact .done ()
  | cons st rest ih => exact .bind (.execute conn st) fun _ => ih

theorem writeOnly_pass (cutoff : Moment) : WriteOnly (pass conn cutoff) := by
  apply WriteOnly.bind (.count _)
  intro _
  apply WriteOnly.bind (writeOnly_deleteExpired conn _ _)
  intro clones
  apply WriteOnly.bind (.recount _)
  intro _
  apply WriteOnly.bind (writeOnly_deleteExpired conn _ _)
  intro composes
  apply WriteOnly.bind (.recount _)
  intro _
  apply WriteOnly.bind _ fun _ => .done _
  exact .bind (.mapFault _ (writeOnly_executeAll conn _)) fun _ => .log _

theorem deleteLoop_eq (cutoff : Moment) (s : Session σ) :
    deleteLoop conn cutoff s =
      match pass conn cutoff s with
      | (.error e, t) => (.error e, t)
      | (.ok (clones, composes), t) =>
        if composes.isZero = true then (.ok (), t)
        else deleteLoop conn cutoff (t.log (passRecord t.tally.iterations clones composes)) := by
  rw [deleteLoop]
  split <;> simp_all

theorem writeOnly_deleteLoop (cutoff : Moment) : WriteOnly (deleteLoop conn cutoff) := by
  intro s
  -- The passes are the same whatever the journal is, so the recursion is that of the loop itself.
  fun_induction Run.deleteLoop conn cutoff s with
  | case1 s e t hp =>
    obtain ⟨es, h⟩ := writeOnly_pass conn cutoff s
    refine ⟨es, fun journal => ?_⟩
    rw [deleteLoop_eq, h journal, hp]
  | case2 s clones composes t hp hc =>
    obtain ⟨es, h⟩ := writeOnly_pass conn cutoff s
    refine ⟨es, fun journal => ?_⟩
    rw [deleteLoop_eq, h journal, hp]
    exact if_pos hc
  | case3 s clones composes t hp hc ih =>
    obtain ⟨es, h⟩ := writeOnly_pass conn cutoff s
    obtain ⟨es', h'⟩ := ih
    refine ⟨es ++ .logged (passRecord t.tally.iterations clones composes) :: es', fun journal => ?_⟩
    rw [deleteLoop_eq, h journal, hp]
    refine (if_neg hc).trans ?_
    have hj := h' ((journal ++ es) ++ [.logged (passRecord t.tally.iterations clones composes)])
    simpa [Session.log, Session.note] using hj

theorem writeOnly_maintain (dryRun : Value) (cutoff : Moment) :
    WriteOnly (maintain conn dryRun cutoff) := by
  apply WriteOnly.bind (.enter _)
  intro _
  apply WriteOnly.bind (writeOnly_statistics conn)
  intro before
  apply WriteOnly.bind (.count _)
  intro _
  have hafter : WriteOnly (do
      Job.enter .statsAfter
      let after ← statistics conn
      Job.count fun t => { t with statsAfter := after }) :=
    .bind (.enter _) fun _ => .bind (writeOnly_statistics conn) fun _ => .count _
  split
  · exact .bind (.enter _) fun _ => .bind (writeOnly_dryRunReport conn _) fun _ => hafter
  · exact .bind (.enter _) fun _ => .bind (writeOnly_deleteLoop conn _) fun _ => hafter

theorem writeOnly_step (st : Step) (fault : Option Fault) :
    WriteOnly (step st fault : Job σ Unit) :=
  .bind (.note _) fun _ => .failIf _

section Alike

/-- The sessions are the same but for their journals, and these show the same records. -/
structure Session.Alike (s s' : Session σ) : Prop where
  world : s.world = s'.world
  stage : s.stage = s'.stage
  tally : s.tally = s'.tally
  shown : (logged s.journal).map Log.Record.shown = (logged s'.journal).map Log.Record.shown

variable {s s' : Session σ} {x x' : Job σ α}

theorem Session.Alike.log (h : s.Alike s') {r r' : Log.Record} (hr : r.shown = r'.shown) :
    (s.log r).Alike (s'.log r') := by
  refine ⟨h.world, h.stage, h.tally, ?_⟩
  simpa [Session.log, Session.note, logged, Event.record?, hr] using h.shown

theorem Session.Alike.note (h : s.Alike s') {e e' : Event} (he : e.record? = none) (he' : e'.record? = none) :
    (s.note e).Alike (s'.note e') := by
  refine ⟨h.world, h.stage, h.tally, ?_⟩
  simpa [Session.note, logged, he, he'] using h.shown

theorem Session.Alike.enter (h : s.Alike s') (stage : Stage) :
    (s.enter stage).Alike (s'.enter stage) := by
  have hstage : ({ s with stage } : Session σ).Alike { s' with stage } := ⟨h.world, rfl, h.tally, h.shown⟩
  exact hstage.log rfl

def Job.Alike (x x' : Job σ α) : Prop :=
  ∀ s s', s.Alike s' → (x s).1 = (x' s').1 ∧ (x s).2.Alike (x' s').2

theorem Job.WriteOnly.alike (hx : WriteOnly x) : Alike x x := by
  intro s s' h
  obtain ⟨es, hes⟩ := hx s
  have hs : x s = ((x s).1, { (x s).2 with journal := s.journal ++ es }) := hes s.journal
  have hs' : x s' = ((x s).1, { (x s).2 with journal := s'.journal ++ es }) := by
    rw [← hes s'.journal, h.world, h.stage, h.tally]
  rw [hs', hs]
  refine ⟨rfl, rfl, rfl, rfl, ?_⟩
  rw [logged_append, logged_append, List.map_append, List.map_append, h.shown]

theorem Job.Alike.bind {f f' : α → Job σ β} (hx : Alike x x') (hf : ∀ a, Alike (f a) (f' a)) :
    Alike (x >>= f) (x' >>= f') := by
  have hagree : Agree Session.Alike x x' := hx
  exact hagree.bind hf

theorem alike_openConnection (faults : StepFaults) (url url' : Text.Loose) {body : Job σ Unit}
    (hbody : WriteOnly body) :
    Alike (openConnection faults url body) (openConnection faults url' body) := by
  apply Alike.bind
  · exact fun s s' h => ⟨rfl, h.note rfl rfl⟩
  · intro _
    apply WriteOnly.alike
    apply WriteOnly.bind (.mapFault _ (writeOnly_step _ _))
    intro _
    apply WriteOnly.always
    · apply WriteOnly.bind (.mapFault _ (writeOnly_step _ _))
      intro _
      apply WriteOnly.always
      · exact .bind (.note _) fun _ => .bind (writeOnly_step _ _) fun _ => hbody
      · exact writeOnly_step _ _
    · exact writeOnly_step _ _

/-- A connection is opened for each body; what goes wrong may depend on the URL. -/
def Site.opening (conn : Connection σ) (faults : Text.Loose → StepFaults) : Site σ :=
  ⟨conn, fun url => openConnection (faults url) url⟩

theorem alike_finish (cutoff : Moment) (dryRun : Value) (r : Except Fault Unit) (h : s.Alike s') :
    (finish cutoff dryRun (r, s)).1 = (finish cutoff dryRun (r, s')).1 ∧
      (finish cutoff dryRun (r, s)).2.Alike (finish cutoff dryRun (r, s')).2 := by
  rcases r with (cause | e) | _
  · exact ⟨rfl, h⟩
  · simp only [finish, h.stage, h.tally, true_and]
    exact (h.enter .aborted).log rfl
  · simp only [finish, h.tally, true_and]
    exact (h.enter .done).log rfl

theorem alike_starting (h : s.Alike s') : (starting s).Alike (starting s') := by
  have htally : ({ s with tally := .zero } : Session σ).Alike { s' with tally := .zero } :=
    ⟨h.world, h.stage, rfl, h.shown⟩
  exact (htally.enter .init).note rfl rfl

/-- Runs of plans that differ in their targets only end alike if the targets open alike. -/
theorem alike_run {faults faults' : Text.Loose → StepFaults} {plan plan' : Plan}
    (hfaults : faults plan.url = faults' plan'.url) (hdry : plan.dryRun = plan'.dryRun)
    (hmonths : plan.months = plan'.months) (now : Moment) (h : s.Alike s') :
    (run (.opening conn faults) plan now s).1 = (run (.opening conn faults') plan' now s').1 ∧
      (run (.opening conn faults) plan now s).2.Alike (run (.opening conn faults') plan' now s').2 := by
  cases hc : cutoff now plan.months with
  | error e =>
    have hc' := hmonths ▸ hc
    simp only [run, hc, hc']
    exact ⟨trivial, alike_starting h⟩
  | ok cutoff =>
    rw [run_eq_finish (.opening conn faults) hc, run_eq_finish (.opening conn faults') (hmonths ▸ hc)]
    simp only [Site.opening, ← hfaults, ← hdry]
    have hopened := alike_openConnection (faults plan.url) plan.url plan'.url
      (writeOnly_maintain conn plan.dryRun cutoff) _ _ (alike_starting h)
    rcases hr : openConnection (faults plan.url) plan.url (maintain conn plan.dryRun cutoff)
      (starting s) with ⟨r, t⟩
    rcases hr' : openConnection (faults plan.url) plan'.url (maintain conn plan.dryRun cutoff)
      (starting s') with ⟨r', t'⟩
    rw [hr, hr'] at hopened
    obtain ⟨rfl, halike⟩ := hopened
    exact alike_finish cutoff plan.dryRun r halike

end Alike

end Retention.Run
