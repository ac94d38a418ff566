import Retention.Run.Session

/-! # The statistics report

Every row of the statistics query is logged. A driver error, a row that cannot be read, or a record that cannot be written
becomes an error of the job; other faults pass. The reply is closed in any case.
-/

namespace Retention.Run

open Database

variable {σ : Type}

/-- Driver errors become errors of the job; other faults stay. -/
def wrapDriver (kind : JobErrorKind) (text : String) : Fault → Fault
  | .outside (.driver e) => .job ⟨kind, text ++ e.message, some (.driver e)⟩
  | f => f

def isUnreadable : Cause → Bool
  | .driver _ => true
  | .mishap m => m.kind == .value || m.kind == .encoding || m.kind == .type

def wrapUnreadable : Fault → Fault
  | .outside c =>
    if isUnreadable c then .job ⟨.stats, "Error reading vacuum stats row: " ++ c.message, some c⟩ else .outside c
  | f => f

/-- Reads and logs rows, up to the fault that cuts them short. -/
def readRows (refusals : Log.Refusals) : List Value → Option Fault → Job σ (List TableStat)
  | [], fault => do
    Job.failIf fault
    return []
  | row :: rest, fault => do
    let stat ← Job.ofExcept ((TableStat.ofRow row).mapError BadStatRow.toMishap)
    Job.logUnless refusals stat.record
    return stat :: (← readRows refusals rest fault)

/-- Logs the statistics of every table whose record can be written. -/
def reportUnless (refusals : Log.Refusals) (conn : Connection σ) : Job σ (List TableStat) := do
  let reply ← (Job.execute conn .stats).mapFault (wrapDriver .stats "Error querying vacuum stats: ")
  (readRows refusals reply.rows reply.fetchFault).mapFault wrapUnreadable |>.always (Job.close reply)

def report (conn : Connection σ) : Job σ (List TableStat) :=
  reportUnless .none conn

end Retention.Run
