import Mathlib.Algebra.GroupWithZero.Nat
import Mathlib.Algebra.Ring.Int.Defs
import Retention.Proofs.Run.Statements

/-! # The books of a live run

The records of a live run account for its summary, wherever the run ends: deleted rows add up to the
totals, passes that go on are numbered from one, reclaimed space is logged once for each complete
pass, and the last record shows the totals.
-/

namespace Retention.Log.Record

def number (name : String) (r : Record) : Int :=
  match r.field? name with
  | some (.int n) => n
  | _ => 0

end Retention.Log.Record

namespace Retention.Run

open Calendar Database

variable {σ : Type} {conn : Connection σ} {cutoff : Moment} {w : σ} {ps : List Pass}

section Books

def Pass.rows (table : String) (p : Pass) : Nat :=
  if table = "clones" then p.clones else if table = "composes" then p.composes else 0

def isOf (table : String) (r : Log.Record) : Bool :=
  match r.field? "table" with
  | some (.text name) => name == table
  | _ => false

/-- The rows that records say were deleted from a table. -/
def rowsLogged (table : String) (recs : List Log.Record) : Int :=
  (((named "retention.rows_deleted" recs).filter (isOf table)).map (·.number "rows")).sum

structure ShowsTotals (r : Log.Record) (iterations : Nat) (clones composes : Int) : Prop where
  iterations : r.field? "iterations" = some (.int iterations)
  clones : r.field? "clones_deleted" = some (.int clones)
  composes : r.field? "composes_deleted" = some (.int composes)

theorem sums_foldl (ps : List Pass) (k : Sums) :
    ps.foldl Sums.plus k = ⟨k.iterations + ps.length, k.clones + (ps.map Pass.clones).sum,
      k.composes + (ps.map Pass.composes).sum⟩ := by
  induction ps generalizing k with
  | nil => rfl
  | cons p ps ih =>
    rw [List.foldl_cons, ih]
    simp only [Sums.plus, List.length_cons, List.map_cons, List.sum_cons, Sums.mk.injEq]
    omega

theorem rowsLogged_append (table : String) (recs recs' : List Log.Record) :
    rowsLogged table (recs ++ recs') = rowsLogged table recs + rowsLogged table recs' := by
  simp [rowsLogged, named_append]

theorem rowsLogged_of_named {recs : List Log.Record} (h : named "retention.rows_deleted" recs = []) (table : String) :
    rowsLogged table recs = 0 := by
  rw [rowsLogged, h]
  rfl

theorem rowsLogged_rowsRecord (table table' : String) (n : Nat) (recs : List Log.Record) :
    rowsLogged table (rowsRecord table' n :: recs) =
      (if table' = table then (n : Int) else 0) + rowsLogged table recs := by
  have hnumber : (rowsRecord table' n).number "rows" = n := rfl
  have hof : isOf table (rowsRecord table' n) = (table' == table) := rfl
  have hnamed : (rowsRecord table' n).isNamed "retention.rows_deleted" = true := rfl
  rw [rowsLogged, rowsLogged, named_cons, if_pos hnamed, List.filter_cons, hof]
  by_cases h : table' = table
  · subst h
    simp [hnumber]
  · simp [h]

theorem rowsLogged_records (table : String) (p : Pass) : rowsLogged table p.records = p.rows table := by
  have hnil : rowsLogged table [] = 0 := rfl
  have hreclaimed : rowsLogged table [reclaimedRecord] = 0 := rowsLogged_of_named (by simp [named]) table
  by_cases hclones : table = "clones"
  · subst hclones
    cases p <;> simp [Pass.records, Pass.rows, Pass.clones, rowsLogged_rowsRecord, hnil, hreclaimed]
  · by_cases hcomposes : table = "composes"
    · subst hcomposes
      cases p <;> simp [Pass.records, Pass.rows, Pass.composes, rowsLogged_rowsRecord, hnil, hreclaimed]
    · have hother : "clones" ≠ table ∧ "composes" ≠ table := ⟨Ne.symm hclones, Ne.symm hcomposes⟩
      cases p <;> simp [Pass.records, Pass.rows, rowsLogged_rowsRecord, hnil, hreclaimed, hclones, hcomposes, hother]

theorem rowsLogged_passesRecords (table : String) (n : Nat) (ps : List Pass) :
    rowsLogged table (passesRecords n ps) = ((ps.map (·.rows table)).sum : Nat) := by
  fun_induction passesRecords n ps with
  | case1 n => rfl
  | case2 n p => simp [rowsLogged_records]
  | case3 n p q ps ih =>
    have hcompletion : rowsLogged table [p.completion (n + 1)] = 0 := rowsLogged_of_named (by simp [named]) table
    rw [List.append_cons, rowsLogged_append, rowsLogged_append, rowsLogged_records, hcompletion, ih]
    simp only [List.map_cons, List.sum_cons]
    omega

theorem named_records_completion (p : Pass) : named "retention.pass_complete" p.records = [] := by
  cases p <;> simp [named, Pass.records]

/-- Passes that go on are numbered without gaps. -/
theorem named_completions (n : Nat) (ps : List Pass) :
    named "retention.pass_complete" (passesRecords n ps) =
      (ps.dropLast.zipIdx (n + 1)).map fun entry => entry.1.completion entry.2 := by
  fun_induction passesRecords n ps with
  | case1 n => rfl
  | case2 n p => exact named_records_completion p
  | case3 n p q ps ih =>
    rw [List.append_cons, named_append, named_append, named_records_completion, ih]
    simp [named]

theorem named_reclaimed (n : Nat) (ps : List Pass) :
    named "retention.reclaimed" (passesRecords n ps) = .replicate (ps.countP (·.error?.isNone)) reclaimedRecord := by
  have hrecords : ∀ p : Pass, named "retention.reclaimed" p.records =
      .replicate (if p.error?.isNone then 1 else 0) reclaimedRecord := by
    intro p
    cases p <;> simp [named, Pass.records, Pass.error?]
  fun_induction passesRecords n ps with
  | case1 n => rfl
  | case2 n p => rw [hrecords, List.countP_singleton]
  | case3 n p q ps ih =>
    have hcompletion : named "retention.reclaimed" [p.completion (n + 1)] = [] := by simp [named]
    rw [List.append_cons, named_append, named_append, hcompletion, List.append_nil, hrecords, ih,
      List.replicate_append_replicate, List.countP_cons (a := p), Nat.add_comm]

theorem Passes.sum_composes (h : Passes conn cutoff w ps) (hcomplete : ps.findSome? Pass.error? = none) :
    (ps.map Pass.composes).sum = (ps.dropLast.map Pass.composes).sum := by
  induction h with
  | last _ stops =>
    rw [List.findSome?_singleton] at hcomplete
    simpa [Pass.goesOn_iff hcomplete] using stops
  | @next w p ps _ goesOn rest ih =>
    rw [List.findSome?_cons, goesOn.error?_eq_none] at hcomplete
    obtain ⟨q, qs, rfl⟩ := List.exists_cons_of_ne_nil rest.ne_nil
    rw [List.map_cons, List.sum_cons, ih hcomplete]
    rfl

theorem sum_completions (n : Nat) (ps : List Pass) :
    (((ps.zipIdx n).map fun entry => entry.1.completion entry.2).map (·.number "composes_deleted")).sum =
      ((ps.map Pass.composes).sum : Nat) := by
  induction ps generalizing n with
  | nil => rfl
  | cons p ps ih =>
    have hnumber : (p.completion n).number "composes_deleted" = p.composes := rfl
    rw [List.zipIdx_cons, List.map_cons, List.map_cons, List.sum_cons, hnumber, ih, List.map_cons, List.sum_cons]
    omega

end Books

section Live

variable {refusal? : Option JobError} {dryRun : Value} {sts : List Statement} {recs : List Log.Record}
  {r : Except Fault Unit} {stage : Stage} {k : Sums}

/-- The records of a live run are those of its passes, between records of its stages. -/
theorem Way.booked (h : Way conn refusal? dryRun cutoff w sts recs r stage k) (hlive : dryRun.holds = false) :
    ∃ ps, ∃ before after : List Stage, recs = before.map stateRecord ++ passesRecords 0 ps ++ after.map stateRecord ∧
      k = ps.foldl Sums.plus .zero ∧
      (if refusal?.isSome then ps = [] else Passes conn cutoff (conn.after w [.stats]) ps) ∧
      (r = .ok () → (ps.map Pass.composes).sum = (ps.dropLast.map Pass.composes).sum) := by
  cases h with
  | @unopened e refused =>
    subst refused
    exact ⟨[], [], [], rfl, rfl, rfl, fun h => nomatch h⟩
  | @stopped ps e opened live passes failed =>
    subst opened
    exact ⟨ps, [.statsBefore, .deleteLoop], [], (List.append_nil _).symm, rfl, passes, fun h => nomatch h⟩
  | @finished ps opened live passes complete =>
    subst opened
    exact ⟨ps, [.statsBefore, .deleteLoop], [.statsAfter], rfl, rfl, passes, fun _ => passes.sum_composes complete⟩
  | counted opened dry => rw [hlive] at dry; cases dry

theorem named_of_course {es : List Event} {before after : List Stage} {final : Stage} {last : Log.Record}
    {name : String} (hcourse : course es = stateRecord .init ::
      (before.map stateRecord ++ passesRecords 0 ps ++ after.map stateRecord) ++ [stateRecord final, last])
    (hreport : name ∉ reportNames) (hstate : name ≠ "maintenance.state") :
    named name (logged es) = named name (passesRecords 0 ps) ++ named name [last] := by
  have hnil : ∀ stages : List Stage, named name (stages.map stateRecord) = [] := by
    intro stages
    simp [named, hstate.symm]
  have hinit : named name [stateRecord .init] = [] := hnil [.init]
  have hfinal : named name [stateRecord final] = [] := hnil [final]
  rw [← named_course hreport, hcourse]
  rw [List.append_cons _ (stateRecord final), ← List.singleton_append (l := _ ++ _)]
  simp only [named_append, hnil, hinit, hfinal, List.nil_append, List.append_nil]

def endNames : List String :=
  ["maintenance.done", "maintenance.aborted"]

section Named

variable {es : List Event} {before after : List Stage} {final : Stage} {last : Log.Record} {name n : String}
  (hcourse : course es = stateRecord .init ::
    (before.map stateRecord ++ passesRecords 0 ps ++ after.map stateRecord) ++ [stateRecord final, last])
  (hlast : ∀ n, last.isNamed n = (name == n))
include hcourse hlast

theorem named_pass_of_course (hname : name ∈ endNames) (hn : n ∈ passNames) :
    named n (logged es) = named n (passesRecords 0 ps) := by
  have hother : ∀ n ∈ passNames, n ∉ endNames ∧ n ∉ reportNames ∧ n ≠ "maintenance.state" := by decide
  obtain ⟨hend, hreport, hstate⟩ := hother n hn
  have hne : name ≠ n := by
    rintro rfl
    exact hend hname
  rw [named_of_course hcourse hreport hstate]
  simp [named, hlast, hne]

theorem named_end_of_course (hn : n ∈ endNames) : named n (logged es) = if name = n then [last] else [] := by
  have hother : ∀ n ∈ endNames, n ∉ passNames ∧ n ∉ reportNames ∧ n ≠ "maintenance.state" := by decide
  obtain ⟨hpass, hreport, hstate⟩ := hother n hn
  rw [named_of_course hcourse hreport hstate, named_passesRecords hpass, List.nil_append]
  simp [named, List.filter_cons, hlast]

end Named

/-- The records account for the summary of a run that has ended so and gone through these passes. -/
structure Balanced (ending : Ending) (summary : Summary) (recs : List Log.Record) (ps : List Pass) : Prop where
  iterations : summary.tally.iterations = ps.length
  clones : summary.tally.clonesDeleted = .whole (rowsLogged "clones" recs)
  composes : summary.tally.composesDeleted = .whole (rowsLogged "composes" recs)
  completions : named "retention.pass_complete" recs =
    (ps.dropLast.zipIdx 1).map fun entry => entry.1.completion entry.2
  reclaimed : named "retention.reclaimed" recs = .replicate (ps.countP (·.error?.isNone)) reclaimedRecord
  last : ∃ last, named "maintenance.done" recs ++ named "maintenance.aborted" recs = [last] ∧
    ShowsTotals last ps.length (rowsLogged "clones" recs) (rowsLogged "composes" recs) ∧
    (last.isNamed "maintenance.done" = true ↔ ending = .done summary)
  completed : ending = .done summary → summary.tally.composesDeleted =
    .whole ((named "retention.pass_complete" recs).map (·.number "composes_deleted")).sum

structure ShowsTally (r : Log.Record) (t : Tally) : Prop where
  iterations : r.field? "iterations" = some (.int t.iterations)
  clones : r.field? "clones_deleted" = some t.clonesDeleted.toValue
  composes : r.field? "composes_deleted" = some t.composesDeleted.toValue

theorem Way.balanced (h : Way conn refusal? dryRun cutoff w sts recs r stage k) (hlive : dryRun.holds = false)
    (summary : Summary) {es : List Event} {final : Stage} {last : Log.Record} {name : String} {ending : Ending}
    (hcourse : course es = stateRecord .init :: recs ++ [stateRecord final, last])
    (hlast : ∀ n, last.isNamed n = (name == n)) (hname : name ∈ endNames)
    (hending : ending = .done summary ↔ name = "maintenance.done") (hr : ending = .done summary → r = .ok ())
    (hshows : ShowsTally last summary.tally) (ht : summary.tally.HasSums k) :
    ∃ ps, (if refusal?.isSome then ps = [] else Passes conn cutoff (conn.after w [.stats]) ps) ∧
      Balanced ending summary (logged es) ps := by
  obtain ⟨ps, before, after, rfl, rfl, hps, hcomposes⟩ := h.booked hlive
  rw [sums_foldl] at ht
  have hpasses : ∀ n ∈ passNames, named n (logged es) = named n (passesRecords 0 ps) := fun n =>
    named_pass_of_course hcourse hlast hname
  have hrows : ∀ table, rowsLogged table (logged es) = ((ps.map (·.rows table)).sum : Nat) := by
    intro table
    rw [rowsLogged, hpasses _ (by decide), ← rowsLogged, rowsLogged_passesRecords]
  have hcompletions : named "retention.pass_complete" (logged es) =
      (ps.dropLast.zipIdx 1).map fun entry => entry.1.completion entry.2 := by
    rw [hpasses _ (by decide), named_completions]
  have hiterations : summary.tally.iterations = ps.length := ht.iterations.trans (Nat.zero_add _)
  have hclones : summary.tally.clonesDeleted = .whole (rowsLogged "clones" (logged es)) := by
    rw [ht.clones, hrows]
    exact congrArg (fun n : Nat => Quantity.whole n) (Nat.zero_add _)
  have hcomposes' : summary.tally.composesDeleted = .whole (rowsLogged "composes" (logged es)) := by
    rw [ht.composes, hrows]
    exact congrArg (fun n : Nat => Quantity.whole n) (Nat.zero_add _)
  refine ⟨ps, hps, hiterations, hclones, hcomposes', hcompletions, ?_, ⟨last, ?_, ?_, ?_⟩, fun hdone => ?_⟩
  · rw [hpasses _ (by decide), named_reclaimed]
  · rw [named_end_of_course hcourse hlast (by decide), named_end_of_course hcourse hlast (by decide)]
    simp only [endNames, List.mem_cons, List.not_mem_nil, or_false] at hname
    rcases hname with rfl | rfl <;> rfl
  · rw [← hiterations]
    exact ⟨hshows.iterations, hshows.clones.trans (by rw [hclones]; rfl), hshows.composes.trans (by rw [hcomposes']; rfl)⟩
  · rw [hlast, hending, beq_iff_eq]
  · rw [hcompletions, sum_completions, ← hcomposes (hr hdone), ht.composes]
    exact congrArg (fun n : Nat => Quantity.whole n) (Nat.zero_add _)

/-- The books of a live run balance, wherever it ends. -/
theorem run_balanced {faults : StepFaults} {plan : Plan} {now : Moment} {s : Session σ} (conn : Connection σ)
    (hfaults : faults.Within IsDriverFault) (hplan : plan.Deletes now cutoff)
    (hplain : s.Plain conn (run ⟨conn, openConnection faults⟩ plan now s).2) :
    let r := run ⟨conn, openConnection faults⟩ plan now s
    ∃ es ps summary, r.2.journal = s.journal ++ es ∧ r.1.summary? = some summary ∧
      (if faults.refusal?.isSome then ps = [] else Passes conn cutoff (conn.after s.world [.stats]) ps) ∧
      Balanced r.1 summary (logged es) ps := by
  intro r
  obtain ⟨sts, recs, stage, k, es, hj, -, -, -, hsums, hend⟩ := run_way hfaults hplan.cutoff hplain
  rcases hend with ⟨hway, hdone, -, hcourse⟩ | ⟨e, hway, haborted, -, hcourse⟩
  · obtain ⟨ps, hps, hbalanced⟩ := hway.balanced hplan.live ⟨cutoff, plan.dryRun, r.2.tally⟩ hcourse (fun _ => rfl)
      List.mem_cons_self (iff_of_true hdone rfl) (fun _ => rfl) ⟨rfl, rfl, rfl⟩ hsums
    exact ⟨es, ps, _, hj, congrArg Ending.summary? hdone, hps, hbalanced⟩
  · have hne : ∀ summary, r.1 ≠ .done summary := fun summary h => nomatch haborted.symm.trans h
    obtain ⟨ps, hps, hbalanced⟩ := hway.balanced hplan.live ⟨cutoff, plan.dryRun, r.2.tally⟩ hcourse (fun _ => rfl)
      (List.mem_cons_of_mem _ List.mem_cons_self) (iff_of_false (hne _) (by decide)) (fun h => absurd h (hne _))
      ⟨rfl, rfl, rfl⟩ hsums
    exact ⟨es, ps, _, hj, congrArg Ending.summary? haborted, hps, hbalanced⟩

theorem run_interrupted_balanced :
    let r := run ⟨Script.connection "sqlite", openConnection .none⟩ ⟨"", .bool false, .int 0⟩ (.ofEpochMicros 0)
      (.start interrupted)
    ∃ es ps summary, r.2.journal = es ∧ r.1.summary? = some summary ∧
      Passes (Script.connection "sqlite") (.ofEpochMicros 0) ((Script.connection "sqlite").after interrupted [.stats])
        ps ∧
      Balanced r.1 summary (logged es) ps := by
  apply run_balanced (Script.connection "sqlite") (StepFaults.within_none _)
  · exact ⟨rfl, by decide +kernel⟩
  · exact plain_interrupted

end Live
end Retention.Run
