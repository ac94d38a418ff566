import Retention.Run.Report

/-! # Expired rows

Expired rows are deleted or counted, and the space of deleted rows is reclaimed. Driver errors become errors of the job.
-/

namespace Retention.Run

open Calendar Database

variable {σ : Type}

inductive Table where
  | clones
  | composes
  deriving DecidableEq, Repr

namespace Table

def name : Table → String
  | .clones => "clones"
  | .composes => "composes"

def deletion : Table → Moment → Statement
  | .clones => .deleteClones
  | .composes => .deleteComposes

def count : Table → Moment → Statement
  | .clones => .countClones
  | .composes => .countComposes

end Table

/-- The statement failed as a whole, so no row was affected. -/
def wrapDeletion (table : Table) : Fault → Fault :=
  wrapDriver (.deletion (.text table.name) (.int 0)) ("Error deleting " ++ table.name ++ ": ")

def wrapCount (table : Table) : Fault → Fault :=
  wrapDriver (.count (.text table.name)) ("Error querying expired " ++ table.name ++ ": ")

def wrapReclaim : Fault → Fault :=
  wrapDriver .reclaim "Error running VACUUM ANALYZE: "

def deleteExpired (conn : Connection σ) (table : Table) (cutoff : Moment) : Job σ Rows := do
  let reply ← (Job.execute conn (table.deletion cutoff)).mapFault (wrapDeletion table)
  let rows ← Job.ofExcept reply.affected
  Job.log (.info "retention.rows_deleted" [("table", .text table.name), ("rows", rows.toValue)])
  return rows

def scalar (reply : Reply) : Job σ Value :=
  match reply.scalar with
  | .ok v => Job.done v
  | .error e => Job.fail e

def countExpired (conn : Connection σ) (table : Table) (cutoff : Moment) : Job σ Int := do
  let value ← (Job.execute conn (table.count cutoff) >>= scalar).mapFault (wrapCount table)
  Job.ofExcept (value.toWhole.mapError Unwhole.toMishap)

def executeAll (conn : Connection σ) : List Statement → Job σ Unit
  | [] => Job.done ()
  | st :: rest => do
    let _ ← Job.execute conn st
    executeAll conn rest

def reclaim (conn : Connection σ) : Job σ Unit := do
  (executeAll conn (reclaimStatements conn.dialect)).mapFault wrapReclaim
  Job.log (.info "retention.reclaimed" [])

theorem frugal_executeAll (conn : Connection σ) (sts : List Statement) : Job.Frugal conn (executeAll conn sts) := by
  induction sts with
  | nil => exact .done ()
  | cons st rest ih => exact .bind (.execute st) fun _ => ih

theorem frugal_reclaim (conn : Connection σ) : Job.Frugal conn (reclaim conn) :=
  .bind (.mapFault _ (frugal_executeAll conn _)) fun _ => .change fun _ => rfl

theorem frugal_deleteExpired (conn : Connection σ) (table : Table) (cutoff : Moment) :
    Job.Frugal conn (deleteExpired conn table cutoff) :=
  .bind (.mapFault _ (.execute _)) fun _ => .bind (.ofExcept _) fun _ => .bind (.change fun _ => rfl) fun _ => .done _

theorem budget_deleteExpired_lt {conn : Connection σ} {cutoff : Moment} {s t : Session σ} {rows : Rows}
    (h : deleteExpired conn .composes cutoff s = (.ok rows, t)) (hr : rows.isZero = false) :
    conn.budget t.world < conn.budget s.world := by
  unfold deleteExpired at h
  obtain ⟨reply, u, hx, h⟩ := Job.bind_eq_ok_iff.mp h
  obtain ⟨affected, v, ha, h⟩ := Job.bind_eq_ok_iff.mp h
  obtain ⟨_, w, hl, h⟩ := Job.bind_eq_ok_iff.mp h
  have hx' : Job.execute conn (.deleteComposes cutoff) s = (.ok reply, u) := by
    unfold Job.mapFault at hx
    generalize hg : Job.execute conn (Table.deletion .composes cutoff) s = r at hx
    obtain ⟨r, u'⟩ := r
    cases r with
    | error e => simp at hx
    | ok reply' =>
      simp only [mapError_ok, Prod.mk.injEq, Except.ok.injEq] at hx
      exact hg.trans (by rw [hx.1, hx.2])
  obtain ⟨hok, hw⟩ := Job.execute_of_ok hx'
  have hv : reply.affected = .ok affected ∧ v = u := by
    unfold Job.ofExcept at ha
    cases hq : reply.affected with
    | error m => simp [hq, Job.fail] at ha
    | ok a =>
      simp only [hq, Job.done, Prod.mk.injEq, Except.ok.injEq] at ha
      exact ⟨by rw [ha.1], ha.2.symm⟩
  have hl' : w.world = v.world := by
    simp only [Job.log, Job.change, Prod.mk.injEq, true_and] at hl
    rw [← hl]
    rfl
  have ht : affected = rows ∧ w = t := by
    simpa [pure, Job.done] using h
  have := conn.budget_lt cutoff s.world reply hok ⟨affected, hv.1, by rw [ht.1]; exact hr⟩
  rw [← ht.2, hl', hv.2, hw]
  exact this

end Retention.Run
