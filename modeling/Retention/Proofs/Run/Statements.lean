import Mathlib.Data.List.Count
import Retention.Database.Script
import Retention.Proofs.Run.Work

/-! # The statements of a live run

Over an open connection a live run queries statistics, goes through passes, and queries statistics
again if no pass failed. A pass follows another if and only if that was complete and its deletion of
composes reported rows. The clock is read once, and all deletions of all passes have one cutoff.
-/

namespace Retention.Run

open Calendar Database

variable {σ : Type} {conn : Connection σ} {plan : Plan} {now cutoff : Moment} {s : Session σ} {w : σ}

section Sent

/-- What the database receives of a statement: its text and the value of its parameter. -/
def sent (st : Statement) : String × Option Moment :=
  (st.sql, st.cutoff?)

def statsQuery : String × Option Moment :=
  ("SELECT relname, pg_size_pretty(pg_total_relation_size(relid)), n_tup_ins, n_tup_upd, n_tup_del, n_live_tup, " ++
    "n_dead_tup, vacuum_count, autovacuum_count, analyze_count, autoanalyze_count, last_vacuum, last_autovacuum, " ++
    "last_analyze, last_autoanalyze FROM pg_stat_user_tables", none)

def deletions (cutoff : Moment) : List (String × Option Moment) :=
  [("DELETE FROM clones WHERE compose_id IN ( SELECT job_id FROM composes WHERE created_at < :cutoff )", some cutoff),
    ("DELETE FROM composes WHERE created_at < :cutoff", some cutoff)]

def reclaims (dialect : String) : List (String × Option Moment) :=
  if dialect = "sqlite" then [("VACUUM", none), ("ANALYZE", none)] else [("VACUUM ANALYZE", none)]

/-- What the database receives of a pass, up to the statement that failed. -/
def Pass.sent (dialect : String) (cutoff : Moment) : Pass → List (String × Option Moment)
  | .clonesFailed _ => (deletions cutoff).take 1
  | .composesFailed _ _ => deletions cutoff
  | .reclaimFailed _ _ before _ _ => deletions cutoff ++ (reclaims dialect).take (before.length + 1)
  | .complete _ _ => deletions cutoff ++ reclaims dialect

theorem sent_stats : sent .stats = statsQuery := by
  decide +kernel

theorem map_sent_deletions (cutoff : Moment) :
    [Statement.deleteClones cutoff, .deleteComposes cutoff].map sent = deletions cutoff := rfl

theorem map_sent_reclaiming (dialect : String) : (reclaiming dialect).map sent = reclaims dialect := by
  unfold reclaiming reclaims
  split <;> rfl

theorem Pass.Fits.map_sent {p : Pass} (h : p.Fits conn cutoff w) :
    (p.statements conn.dialect cutoff).map Run.sent = p.sent conn.dialect cutoff := by
  cases p with
  | clonesFailed e => rfl
  | composesFailed n e => rfl
  | reclaimFailed n m before failed e =>
    obtain ⟨behind, hreclaim⟩ := h.2.2.1
    have hlength : (before ++ [failed]).length = before.length + 1 := List.length_append
    have htake : before ++ [failed] = (reclaiming conn.dialect).take (before.length + 1) := by
      rw [hreclaim, List.append_cons before failed behind, ← hlength, List.take_left]
    rw [statements, htake, List.map_append, List.map_take, map_sent_deletions, map_sent_reclaiming]
    rfl
  | complete n m =>
    rw [statements, List.map_append, map_sent_deletions, map_sent_reclaiming]
    rfl

end Sent

theorem Way.passes {dryRun : Value} {sts : List Statement} {recs : List Log.Record} {r : Except Fault Unit}
    {stage : Stage} {k : Sums} (h : Way conn none dryRun cutoff w sts recs r stage k) (hlive : dryRun.holds = false) :
    ∃ ps, Passes conn cutoff (conn.after w [.stats]) ps ∧
      sts = .stats :: ps.flatMap (Pass.statements conn.dialect cutoff) ++
        (if ps.all (·.error?.isNone) then [.stats] else []) := by
  have hall : ∀ ps : List Pass, ps.all (·.error?.isNone) = true ↔ ps.findSome? Pass.error? = none := by
    simp [List.findSome?_eq_none_iff]
  cases h with
  | unopened refused => cases refused
  | @stopped ps e _ _ passes failed =>
    refine ⟨ps, passes, ?_⟩
    rw [if_neg, List.append_nil]
    rw [hall, failed]
    exact Option.some_ne_none e
  | @finished ps _ _ passes complete =>
    refine ⟨ps, passes, ?_⟩
    rw [if_pos ((hall ps).mpr complete), List.cons_append]
  | counted _ dry => rw [hlive] at dry; cases dry

/-- From the world on, these are the statements of a live run that goes through these passes. -/
structure Traced (conn : Connection σ) (cutoff : Moment) (w : σ) (sts : List Statement) (ps : List Pass) : Prop where
  ne_nil : ps ≠ []
  statements : sts = .stats :: ps.flatMap (Pass.statements conn.dialect cutoff) ++
    (if ps.all (·.error?.isNone) then [.stats] else [])
  sent : sts.map Run.sent = statsQuery :: ps.flatMap (Pass.sent conn.dialect cutoff) ++
    (if ps.all (·.error?.isNone) then [statsQuery] else [])
  fits : ∀ i (p : Pass), ps[i]? = some p →
    p.Fits conn cutoff (conn.after w (.stats :: (ps.take i).flatMap (Pass.statements conn.dialect cutoff)))
  goesOn : ∀ i (p : Pass), ps[i]? = some p → (i + 1 < ps.length ↔ p.GoesOn)

theorem Passes.traced {ps : List Pass} (h : Passes conn cutoff (conn.after w [.stats]) ps) :
    Traced conn cutoff w (.stats :: ps.flatMap (Pass.statements conn.dialect cutoff) ++
      (if ps.all (·.error?.isNone) then [.stats] else [])) ps where
  ne_nil := h.ne_nil
  statements := rfl
  sent := by
    have hpass : ∀ p ∈ ps, (p.statements conn.dialect cutoff).map Run.sent = p.sent conn.dialect cutoff := by
      intro p hp
      obtain ⟨i, hi⟩ := List.getElem?_of_mem hp
      exact (h.getElem? hi).1.map_sent
    have hlast : (if ps.all (·.error?.isNone) then [Statement.stats] else []).map Run.sent =
        if ps.all (·.error?.isNone) then [statsQuery] else [] := by
      split
      · rw [List.map_singleton, sent_stats]
      · rfl
    rw [List.cons_append, List.map_cons, List.map_append, List.map_flatMap, List.flatMap_congr hpass, hlast, sent_stats]
    rfl
  fits i p hp := (h.getElem? hp).1
  goesOn i p hp := (h.getElem? hp).2

/-- A live run over an open connection executes the statements of passes, and reads the clock once. -/
theorem run_traced (conn : Connection σ) (hplan : plan.Deletes now cutoff)
    (hplain : s.Plain conn (run ⟨conn, openConnection .none⟩ plan now s).2) :
    let r := run ⟨conn, openConnection .none⟩ plan now s
    ∃ es ps, r.2.journal = s.journal ++ es ∧ Traced conn cutoff s.world (executed es) ps ∧ clockReads es = 1 := by
  intro r
  obtain ⟨sts, recs, stage, k, es, hj, hsts, hclock, -, -, hend⟩ :=
    run_way (StepFaults.within_none _) hplan.cutoff hplain
  obtain ⟨result, hway⟩ : ∃ result, Way conn none plan.dryRun cutoff s.world sts recs result stage k := by
    rcases hend with ⟨hway, -⟩ | ⟨e, hway, -⟩ <;> exact ⟨_, hway⟩
  obtain ⟨ps, hps, hstatements⟩ := hway.passes hplan.live
  refine ⟨es, ps, hj, ?_, hclock⟩
  rw [hsts, hstatements]
  exact hps.traced

/-- A pass of which the deletion of clones reports no number, and one in which that of composes fails. -/
def interrupted : Script :=
  [.ok .empty, .ok { Reply.empty with rowCount := .int (-1) }, .ok (.counting 2), .ok .empty, .ok .empty,
    .ok (.counting 3), .error (.outside (.driver ⟨.operational, none, "database is locked"⟩))]

theorem plain_interrupted :
    (Session.start interrupted).Plain (Script.connection "sqlite")
      (run ⟨Script.connection "sqlite", openConnection .none⟩ ⟨"", .bool false, .int 0⟩ (.ofEpochMicros 0)
        (.start interrupted)).2 := by
  have hsts : executed (run ⟨Script.connection "sqlite", openConnection .none⟩ ⟨"", .bool false, .int 0⟩
      (.ofEpochMicros 0) (.start interrupted)).2.journal =
      [.stats, .deleteClones (.ofEpochMicros 0), .deleteComposes (.ofEpochMicros 0), .vacuum, .analyze,
        .deleteClones (.ofEpochMicros 0), .deleteComposes (.ofEpochMicros 0)] := by
    decide +kernel
  apply Session.Plain.of_executed hsts
  exact ⟨⟨rfl, fun f hf => nomatch hf⟩, ⟨_, rfl⟩, ⟨_, rfl⟩, trivial, trivial, ⟨_, rfl⟩, ⟨_, rfl⟩, trivial⟩

theorem run_interrupted :
    let r := run ⟨Script.connection "sqlite", openConnection .none⟩ ⟨"", .bool false, .int 0⟩ (.ofEpochMicros 0)
      (.start interrupted)
    ∃ es ps, r.2.journal = es ∧
      Traced (Script.connection "sqlite") (.ofEpochMicros 0) interrupted (executed es) ps ∧ clockReads es = 1 := by
  apply run_traced (Script.connection "sqlite") (s := .start interrupted)
  · exact ⟨rfl, by decide +kernel⟩
  · exact plain_interrupted

end Retention.Run
