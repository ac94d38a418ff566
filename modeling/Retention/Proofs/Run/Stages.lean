import Mathlib.Data.List.Defs
import Retention.Proofs.Run.Statements

/-! # The stages of runs

One runner is called again and again, with a clock, a world and faults for each call, and enters each
run in the stage in which it left the one before. Every run passes through the stages of one of three
ways, it returns from the last stage of the first and raises its error from that of the others, and
the error comes from the driver error that stopped it.
-/

namespace Retention.Run

open Calendar Database

variable {σ : Type} {conn : Connection σ} {plan : Plan} {cutoff : Moment}

/-- What is new for a runner with each call. -/
structure Call (σ : Type) where
  now : Moment
  faults : StepFaults
  world : σ

/-- The calls of a runner, with the end and the session that each comes to. -/
def runs (conn : Connection σ) (plan : Plan) : Session σ → List (Call σ) → List (Call σ × Ending × Session σ)
  | _, [] => []
  | s, call :: rest =>
    let r := run ⟨conn, openConnection call.faults⟩ plan call.now { s with world := call.world, journal := [] }
    (call, r) :: runs conn plan r.2 rest

def Recorded (words : List String) (journal : List Event) : Prop :=
  named "maintenance.state" (logged journal) = words.map fun word => ⟨.debug, "maintenance.state", [("state", .text word)]⟩

/-- One record tells of the end of a run: the error with the name of its class, the word of the stage that was left, the
rows affected, and the tally. -/
def AbortTold (journal : List Event) (e : JobError) (className word : String) (rows : Value) (t : Tally) : Prop :=
  ∃ clones composes, t.clonesDeleted = .whole clones ∧ t.composesDeleted = .whole composes ∧
    named "maintenance.aborted" (logged journal) = [⟨.error, "maintenance.aborted", [("error", .text e.message),
      ("error_type", .text className), ("state", .text word), ("rows_affected", rows), ("iterations", .int t.iterations),
      ("clones_deleted", .int clones), ("composes_deleted", .int composes)]⟩]

/-- The error that stops a pass, and the record that tells of it. -/
inductive StoppedBy (journal : List Event) (t : Tally) : JobError → Prop
  | deletion {e table} (mem : table ∈ ["clones", "composes"]) (kind : e.kind = .deletion (.text table) (.int 0))
      (told : AbortTold journal e "DeletionError" "delete_loop" (.int 0) t) : StoppedBy journal t e
  | reclaim {e} (kind : e.kind = .reclaim) (told : AbortTold journal e "ReclaimError" "delete_loop" .null t) :
      StoppedBy journal t e

/-- The ways through the stages of a run: it is done, the connection has not opened, or a live run has
stopped at the statement that failed last. -/
inductive Staged (conn : Connection σ) (plan : Plan) (cutoff : Moment) (call : Call σ) : Ending → Session σ → Prop
  | done {t} (stage : t.stage = .done)
      (recorded : Recorded ["init", "stats_before", if plan.dryRun.holds then "dry_run_report" else "delete_loop",
        "stats_after", "done"] t.journal)
      (unaborted : named "maintenance.aborted" (logged t.journal) = []) :
      Staged conn plan cutoff call (.done ⟨cutoff, plan.dryRun, t.tally⟩) t
  | unopened {t e d} (stage : t.stage = .aborted) (recorded : Recorded ["init", "aborted"] t.journal)
      (fault : call.faults.create = some (.outside (.driver d)) ∨
        call.faults.create = none ∧ call.faults.connect = some (.outside (.driver d)))
      (kind : e.kind = .connection) (cause : e.cause = some (.driver d))
      (told : AbortTold t.journal e "DatabaseConnectionError" "init" .null t.tally) :
      Staged conn plan cutoff call (.aborted e ⟨cutoff, plan.dryRun, t.tally⟩) t
  | stopped {t e d before st} (live : plan.dryRun.holds = false) (stage : t.stage = .aborted)
      (recorded : Recorded ["init", "stats_before", "delete_loop", "aborted"] t.journal)
      (executed : Run.executed t.journal = before ++ [st])
      (fault : conn.Fails (conn.after call.world before) st d)
      (cause : e.cause = some (.driver d)) (stopped : StoppedBy t.journal t.tally e) :
      Staged conn plan cutoff call (.aborted e ⟨cutoff, plan.dryRun, t.tally⟩) t

theorem Staged.returns_iff {call : Call σ} {ending : Ending} {t : Session σ}
    (h : Staged conn plan cutoff call ending t) :
    ((∃ summary, ending = .done summary) ↔ t.stage = .done) ∧
      ((∃ e summary, ending = .aborted e summary) ↔ t.stage = .aborted) := by
  cases h with
  | done stage => simp [stage]
  | unopened stage => simp [stage]
  | stopped _ stage => simp [stage]

theorem Recorded.of_stages (stages : List Stage) {journal : List Event}
    (h : named "maintenance.state" (logged journal) = stages.map stateRecord) :
    Recorded (stages.map Stage.word) journal := by
  rw [Recorded, h, List.map_map]
  rfl

theorem abortTold_of_named {journal : List Event} {t : Tally} {k : Sums} (e : JobError) (stage : Stage)
    (h : named "maintenance.aborted" (logged journal) = [abortedRecord e stage t]) (ht : t.HasSums k) :
    AbortTold journal e e.kind.name stage.word e.kind.rowsAffected t := by
  refine ⟨k.clones, k.composes, ht.clones, ht.composes, ?_⟩
  rw [h, abortedRecord, Tally.totals, ht.clones, ht.composes]
  rfl

theorem IsPassError.stoppedBy {d : DriverError} {e : JobError} {journal : List Event} {t : Tally} (h : IsPassError d e)
    (hreported : AbortTold journal e e.kind.name "delete_loop" e.kind.rowsAffected t) : StoppedBy journal t e := by
  cases h with
  | clones => exact .deletion (by decide) rfl hreported
  | composes => exact .deletion (by decide) rfl hreported
  | reclaim => exact .reclaim rfl hreported

theorem IsPassError.cause {d : DriverError} {e : JobError} (h : IsPassError d e) : e.cause = some (.driver d) := by
  cases h <;> rfl

theorem StepFaults.Within.of_refusal? {faults : StepFaults} (h : faults.Within IsDriverFault) {e : JobError}
    (he : faults.refusal? = some e) :
    ∃ d, (faults.create = some (.outside (.driver d)) ∨
        faults.create = .none ∧ faults.connect = some (.outside (.driver d))) ∧
      e.kind = .connection ∧ e.cause = some (.driver d) := by
  rcases h.cases with ⟨d, hcreate, hd⟩ | ⟨hcreate, ⟨d, hconnect, hd⟩ | ⟨-, hd⟩⟩
  · cases hd.symm.trans he
    exact ⟨d, .inl hcreate, rfl, rfl⟩
  · cases hd.symm.trans he
    exact ⟨d, .inr ⟨hcreate, hconnect⟩, rfl, rfl⟩
  · cases hd.symm.trans he

theorem named_passes (ps : List Pass) : named "maintenance.state" (passesRecords 0 ps) = [] ∧
    named "maintenance.aborted" (passesRecords 0 ps) = [] :=
  ⟨named_passesRecords (by decide) 0 ps, named_passesRecords (by decide) 0 ps⟩

section Ways

variable {call : Call σ} {t : Session σ} {e : JobError} {sts : List Statement} {recs : List Log.Record} {stage : Stage}
  {k : Sums}

theorem staged_of_done (hway : Way conn call.faults.refusal? plan.dryRun cutoff call.world sts recs (.ok ()) stage k)
    (hstage : t.stage = .done) (hcourse : course t.journal = stateRecord .init :: recs ++
      [stateRecord .done, doneRecord ⟨cutoff, plan.dryRun, t.tally⟩]) :
    Staged conn plan cutoff call (.done ⟨cutoff, plan.dryRun, t.tally⟩) t := by
  have hstate : named "maintenance.state" (logged t.journal) = named "maintenance.state" (course t.journal) :=
    (named_course (by decide) _).symm
  have haborted : named "maintenance.aborted" (logged t.journal) = named "maintenance.aborted" (course t.journal) :=
    (named_course (by decide) _).symm
  rw [hcourse] at hstate haborted
  cases hway with
  | finished opened live passes complete =>
    have hrecorded := Recorded.of_stages [.init, .statsBefore, .deleteLoop, .statsAfter, .done]
      (hstate.trans (by simp [named_cons, named_append, named_passes]))
    refine .done hstage ?_ ?_
    · rw [live]
      exact hrecorded
    · rw [haborted]
      simp [named_cons, named_append, named_passes]
  | counted opened dry =>
    have hrecorded := Recorded.of_stages [.init, .statsBefore, .dryRunReport, .statsAfter, .done]
      (hstate.trans (by simp [named_cons]))
    refine .done hstage ?_ ?_
    · rw [dry]
      exact hrecorded
    · rw [haborted]
      simp [named_cons]

theorem staged_of_aborted (hfaults : call.faults.Within IsDriverFault)
    (hway : Way conn call.faults.refusal? plan.dryRun cutoff call.world sts recs (.error (.job e)) stage k)
    (hsts : executed t.journal = sts) (hsums : t.tally.HasSums k) (hstage : t.stage = .aborted)
    (hcourse : course t.journal = stateRecord .init :: recs ++ [stateRecord .aborted, abortedRecord e stage t.tally]) :
    Staged conn plan cutoff call (.aborted e ⟨cutoff, plan.dryRun, t.tally⟩) t := by
  have hstate : named "maintenance.state" (logged t.journal) = named "maintenance.state" (course t.journal) :=
    (named_course (by decide) _).symm
  have haborted : named "maintenance.aborted" (logged t.journal) = named "maintenance.aborted" (course t.journal) :=
    (named_course (by decide) _).symm
  rw [hcourse] at hstate haborted
  cases hway with
  | unopened refused =>
    obtain ⟨d, hfault, hkind, hcause⟩ := hfaults.of_refusal? refused
    have hrecorded := Recorded.of_stages [.init, .aborted] (hstate.trans (by simp [named_cons]))
    have hreported := abortTold_of_named e .init (haborted.trans (by simp [named_cons])) hsums
    rw [hkind] at hreported
    exact .unopened hstage hrecorded hfault hkind hcause hreported
  | stopped opened live passes failed =>
    obtain ⟨before, st, d, hstatements, hfails, hd⟩ := passes.failed failed
    have hlast : conn.Fails (conn.after call.world (.stats :: before)) st d := hfails
    have hrecorded := Recorded.of_stages [.init, .statsBefore, .deleteLoop, .aborted]
      (hstate.trans (by simp [named_cons, named_append, named_passes]))
    have hreported :=
      abortTold_of_named e .deleteLoop (haborted.trans (by simp [named_cons, named_append, named_passes])) hsums
    refine .stopped live hstage hrecorded ?_ hlast hd.cause (hd.stoppedBy hreported)
    rw [hsts, hstatements, List.cons_append]

end Ways

theorem run_staged {call : Call σ} {s : Session σ} (hfaults : call.faults.Within IsDriverFault)
    (hc : Calendar.cutoff call.now plan.months = .ok cutoff) (hworld : s.world = call.world) (hjournal : s.journal = [])
    (hplain : s.Plain conn (run ⟨conn, openConnection call.faults⟩ plan call.now s).2) :
    let r := run ⟨conn, openConnection call.faults⟩ plan call.now s
    Staged conn plan cutoff call r.1 r.2 := by
  intro r
  obtain ⟨sts, recs, stage, k, es, hj, hsts, -, -, hsums, hend⟩ := run_way hfaults hc hplain
  rw [hjournal, List.nil_append] at hj
  obtain rfl := hj
  rw [hworld] at hend
  rcases hend with ⟨hway, hend, hstage, hcourse⟩ | ⟨e, hway, hend, hstage, hcourse⟩
  · rw [hend]
    exact staged_of_done hway hstage hcourse
  · rw [hend]
    exact staged_of_aborted hfaults hway hsts hsums hstage hcourse

/-- Every call of a runner whose statements are answered plainly goes one of the ways, whatever the calls before
it came to; it returns if and only if it ends done, and raises if and only if it ends aborted. -/
theorem runs_staged (conn : Connection σ) (plan : Plan) (s : Session σ) (calls : List (Call σ)) :
    ∀ entry ∈ runs conn plan s calls, entry.1.faults.Within IsDriverFault →
      ∀ cutoff, Calendar.cutoff entry.1.now plan.months = .ok cutoff →
      (Session.start entry.1.world).Plain conn entry.2.2 →
      Staged conn plan cutoff entry.1 entry.2.1 entry.2.2 ∧
        ((∃ summary, entry.2.1 = .done summary) ↔ entry.2.2.stage = .done) ∧
        ((∃ e summary, entry.2.1 = .aborted e summary) ↔ entry.2.2.stage = .aborted) := by
  induction calls generalizing s with
  | nil => exact fun entry h => absurd h List.not_mem_nil
  | cons call rest ih =>
    intro entry hentry hfaults cutoff hc hplain
    rcases List.mem_cons.mp hentry with rfl | hentry
    · have hstaged := run_staged hfaults hc rfl rfl hplain
      exact ⟨hstaged, hstaged.returns_iff⟩
    · exact ih _ entry hentry hfaults cutoff hc hplain

/-- A run that deletes nothing, one that does not connect, and one that is interrupted. -/
def repeated : List (Call Script) :=
  [⟨.ofEpochMicros 0, .none, [.ok .empty, .ok .empty, .ok .empty, .ok .empty, .ok .empty, .ok .empty]⟩,
    ⟨.ofEpochMicros 0,
      { StepFaults.none with connect := some (.outside (.driver ⟨.operational, none, "no route"⟩)) }, []⟩,
    ⟨.ofEpochMicros 0, .none, interrupted⟩]

theorem runs_repeated :
    (runs (Script.connection "sqlite") ⟨"", .bool false, .int 0⟩ (.start []) repeated).Forall fun entry =>
      Staged (Script.connection "sqlite") ⟨"", .bool false, .int 0⟩ (.ofEpochMicros 0) entry.1 entry.2.1 entry.2.2 ∧
        ((∃ summary, entry.2.1 = .done summary) ↔ entry.2.2.stage = .done) ∧
        ((∃ e summary, entry.2.1 = .aborted e summary) ↔ entry.2.2.stage = .aborted) := by
  have hobserved : Observed (.ok .empty) := ⟨rfl, fun f hf => nomatch hf⟩
  have hstaged := runs_staged (Script.connection "sqlite") ⟨"", .bool false, .int 0⟩ (.start []) repeated
  refine ⟨hstaged _ (.head _) (StepFaults.within_none _) _ (by decide +kernel) (.of_executed (show _ =
      [.stats, .deleteClones (.ofEpochMicros 0), .deleteComposes (.ofEpochMicros 0), .vacuum, .analyze, .stats]
      from by decide +kernel) ?_),
    hstaged _ (.tail _ (.head _)) ⟨(fun f hf => nomatch hf), ?_, rfl, rfl, rfl⟩ _ (by decide +kernel)
      (.of_executed (show _ = [] from by decide +kernel) trivial),
    hstaged _ (.tail _ (.tail _ (.head _))) (StepFaults.within_none _) _ (by decide +kernel) (.of_executed (show _ =
      [.stats, .deleteClones (.ofEpochMicros 0), .deleteComposes (.ofEpochMicros 0), .vacuum, .analyze,
        .deleteClones (.ofEpochMicros 0), .deleteComposes (.ofEpochMicros 0)] from by decide +kernel) ?_)⟩
  · exact ⟨hobserved, ⟨_, rfl⟩, ⟨_, rfl⟩, trivial, trivial, hobserved, trivial⟩
  · exact fun f hf => ⟨_, (Option.some.inj hf).symm⟩
  · exact ⟨hobserved, ⟨_, rfl⟩, ⟨_, rfl⟩, trivial, trivial, ⟨_, rfl⟩, ⟨_, rfl⟩, trivial⟩

end Retention.Run
