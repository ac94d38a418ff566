import Retention.Calendar.Moment

/-! # Statements

The statements of the job. All that depend on age take one cutoff as their parameter.
-/

namespace Retention.Database

open Calendar

inductive Statement where
  | stats
  | deleteClones (cutoff : Moment)
  | deleteComposes (cutoff : Moment)
  | countClones (cutoff : Moment)
  | countComposes (cutoff : Moment)
  | vacuumAnalyze
  | vacuum
  | analyze
  deriving DecidableEq, Repr

namespace Statement

def sql : Statement → String
  | .stats =>
    "SELECT relname, pg_size_pretty(pg_total_relation_size(relid)), " ++
    "n_tup_ins, n_tup_upd, n_tup_del, n_live_tup, n_dead_tup, " ++
    "vacuum_count, autovacuum_count, analyze_count, autoanalyze_count, " ++
    "last_vacuum, last_autovacuum, last_analyze, last_autoanalyze FROM pg_stat_user_tables"
  | .deleteClones _ =>
    "DELETE FROM clones WHERE compose_id IN ( SELECT job_id FROM composes WHERE created_at < :cutoff )"
  | .deleteComposes _ => "DELETE FROM composes WHERE created_at < :cutoff"
  | .countClones _ =>
    "SELECT COUNT(*) FROM clones WHERE compose_id IN ( SELECT job_id FROM composes WHERE created_at < :cutoff )"
  | .countComposes _ => "SELECT COUNT(*) FROM composes WHERE created_at < :cutoff"
  | .vacuumAnalyze => "VACUUM ANALYZE"
  | .vacuum => "VACUUM"
  | .analyze => "ANALYZE"

def cutoff? : Statement → Option Moment
  | .deleteClones c | .deleteComposes c | .countClones c | .countComposes c => some c
  | _ => none

def writes : Statement → Bool
  | .deleteClones _ | .deleteComposes _ | .vacuumAnalyze | .vacuum | .analyze => true
  | _ => false

end Statement

/-- The statements that reclaim space; one dialect has no combined form. -/
def reclaimStatements (dialect : String) : List Statement :=
  if dialect = "sqlite" then [.vacuum, .analyze] else [.vacuumAnalyze]

end Retention.Database
