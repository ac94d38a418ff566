import Retention.Calendar.Cutoff
import Retention.Run.Expiry

/-! # A maintenance run

Statistics are reported before and after the work. A live run repeats its pass, delete clones, delete composes, reclaim,
until a pass deletes no compose; a dry run only counts. Statistics and counts that fail are logged; every other error of
the job aborts the run, with the tally so far.
-/

namespace Retention.Run

open Calendar Database

variable {σ : Type}

structure Plan where
  url : Text.Loose
  dryRun : Value
  months : Value

structure Summary where
  cutoff : Moment
  dryRun : Value
  tally : Tally

/-- A connection, and how it is held for the duration of a body. -/
structure Site (σ : Type) where
  conn : Connection σ
  connect : Text.Loose → Job σ Unit → Job σ Unit

def Tally.totals (t : Tally) : Log.Fields :=
  [("iterations", .int t.iterations), ("clones_deleted", t.clonesDeleted.toValue),
    ("composes_deleted", t.composesDeleted.toValue)]

def intOrNull : Option Int → Value
  | some n => .int n
  | none => .null

/-- Reports statistics; if that fails they are none. -/
def statistics (conn : Connection σ) : Job σ (List TableStat) := fun s =>
  match report conn s with
  | (.error (.job ⟨.stats, message, _⟩), s) =>
    (.ok [], s.log (.warning "stats.error" [("error", .text message), ("state", .text s.stage.word)]))
  | r => r

def expectedCount (conn : Connection σ) (table : Table) (cutoff : Moment) : Job σ (Option Int) := fun s =>
  match countExpired conn table cutoff s with
  | (.ok n, s) => (.ok (some n), s)
  | (.error (.job ⟨.count table, message, _⟩), s) =>
    (.ok none, s.log (.warning "dry_run.count_error" [("table", table), ("error", .text message)]))
  | (.error e, s) => (.error e, s)

def dryRunReport (conn : Connection σ) (cutoff : Moment) : Job σ Unit := do
  let clones ← expectedCount conn .clones cutoff
  Job.count fun t => { t with expiredClones := clones }
  let composes ← expectedCount conn .composes cutoff
  Job.count fun t => { t with expiredComposes := composes }
  Job.log (.info "dry_run.expired" [("cutoff", .text cutoff.toText), ("expired_composes", intOrNull composes),
    ("expired_clones", intOrNull clones)])

def addRows (total : Quantity) (rows : Rows) : Except Mishap Quantity :=
  total.add rows.quantity

def Tally.addClones (rows : Rows) (t : Tally) : Except Mishap Tally :=
  (addRows t.clonesDeleted rows).map fun total => { t with clonesDeleted := total }

def Tally.addComposes (rows : Rows) (t : Tally) : Except Mishap Tally :=
  (addRows t.composesDeleted rows).map fun total => { t with composesDeleted := total }

/-- One pass: clones go first, for they refer to composes. -/
def pass (conn : Connection σ) (cutoff : Moment) : Job σ (Rows × Rows) := do
  Job.count fun t => { t with iterations := t.iterations + 1 }
  let clones ← deleteExpired conn .clones cutoff
  Job.recount (Tally.addClones clones)
  let composes ← deleteExpired conn .composes cutoff
  Job.recount (Tally.addComposes composes)
  reclaim conn
  return (clones, composes)

theorem budget_pass_lt {conn : Connection σ} {cutoff : Moment} {s t : Session σ} {clones composes : Rows}
    (h : pass conn cutoff s = (.ok (clones, composes), t)) (hc : composes.isZero = false) :
    conn.budget t.world < conn.budget s.world := by
  unfold pass at h
  obtain ⟨_, s₁, h₁, h⟩ := Job.bind_eq_ok_iff.mp h
  obtain ⟨clones', s₂, h₂, h⟩ := Job.bind_eq_ok_iff.mp h
  obtain ⟨_, s₃, h₃, h⟩ := Job.bind_eq_ok_iff.mp h
  obtain ⟨composes', s₄, h₄, h⟩ := Job.bind_eq_ok_iff.mp h
  obtain ⟨_, s₅, h₅, h⟩ := Job.bind_eq_ok_iff.mp h
  obtain ⟨_, s₆, h₆, h⟩ := Job.bind_eq_ok_iff.mp h
  have w₁ : s₁.world = s.world := by rw [← (Prod.mk.inj h₁).2]
  have w₃ : s₃.world = s₂.world := by rw [← Job.world_recount (Tally.addClones clones') s₂, h₃]
  have w₅ : s₅.world = s₄.world := by rw [← Job.world_recount (Tally.addComposes composes') s₄, h₅]
  have hend : (clones', composes') = (clones, composes) ∧ s₆ = t := by
    simpa [pure, Job.done] using h
  have b₂ := frugal_deleteExpired conn .clones cutoff s₁
  have b₆ := frugal_reclaim conn s₅
  rw [h₂] at b₂
  rw [h₆] at b₆
  have b₄ := budget_deleteExpired_lt h₄ (by rw [(Prod.mk.inj hend.1).2]; exact hc)
  dsimp only at b₂ b₆
  rw [← hend.2]
  rw [w₁] at b₂
  rw [w₃] at b₄
  rw [w₅] at b₆
  omega

def passRecord (iteration : Nat) (clones composes : Rows) : Log.Record :=
  .info "retention.pass_complete" [("iteration", .int iteration), ("composes_deleted", composes.toValue),
    ("clones_deleted", clones.toValue)]

def deleteLoop (conn : Connection σ) (cutoff : Moment) (s : Session σ) : Except Fault Unit × Session σ :=
  match _h : pass conn cutoff s with
  | (.error e, t) => (.error e, t)
  | (.ok (clones, composes), t) =>
    if _hc : composes.isZero = true then (.ok (), t)
    else deleteLoop conn cutoff (t.log (passRecord t.tally.iterations clones composes))
termination_by conn.budget s.world
decreasing_by
  show conn.budget t.world < conn.budget s.world
  exact budget_pass_lt _h (Bool.eq_false_iff.mpr _hc)

def maintain (conn : Connection σ) (dryRun : Value) (cutoff : Moment) : Job σ Unit := do
  Job.enter .statsBefore
  let before ← statistics conn
  Job.count fun t => { t with statsBefore := before }
  if dryRun.holds then
    Job.enter .dryRunReport
    dryRunReport conn cutoff
  else
    Job.enter .deleteLoop
    deleteLoop conn cutoff
  Job.enter .statsAfter
  let after ← statistics conn
  Job.count fun t => { t with statsAfter := after }

/-- How a run ends: done, aborted by an error of the job, or broken off by something else. -/
inductive Ending where
  | done (summary : Summary)
  | aborted (error : JobError) (summary : Summary)
  | crashed (cause : Cause)

def doneRecord (summary : Summary) : Log.Record :=
  .info "maintenance.done" ([("dry_run", summary.dryRun), ("cutoff", .text summary.cutoff.toText)] ++
    summary.tally.totals)

def abortedRecord (error : JobError) (stage : Stage) (tally : Tally) : Log.Record :=
  .error "maintenance.aborted" ([("error", .text error.message), ("error_type", .text error.kind.name),
    ("state", .text stage.word), ("rows_affected", error.kind.rowsAffected)] ++ tally.totals)

/-- A run at a moment. The cutoff is fixed for the whole run. -/
def run (site : Site σ) (plan : Plan) (now : Moment) (s : Session σ) : Ending × Session σ :=
  let s := ({ s with tally := .zero }.enter .init).note .clockRead
  match cutoff now plan.months with
  | .error e => (.crashed (.mishap e.toMishap), s)
  | .ok cutoff =>
    let summary (s : Session σ) : Summary := ⟨cutoff, plan.dryRun, s.tally⟩
    match site.connect plan.url (maintain site.conn plan.dryRun cutoff) s with
    | (.ok (), s) =>
      let s := s.enter .done
      (.done (summary s), s.log (doneRecord (summary s)))
    | (.error (.job e), s) =>
      (.aborted e (summary s), (s.enter .aborted).log (abortedRecord e s.stage s.tally))
    | (.error (.outside c), s) => (.crashed c, s)

end Retention.Run
