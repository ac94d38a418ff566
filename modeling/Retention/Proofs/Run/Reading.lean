import Retention.Database.Script
import Retention.Proofs.Run.Course

/-! # Reading statistics

The rows of the statistics query are read in their order up to what stops the reading: the first row
that cannot be read, the first record that cannot be written, or the fault that cuts the rows short.
Each row before it is logged, nothing behind it is looked at, and the reply is closed once, whatever
happened.
-/

namespace Retention.Run

open Database Job

/-- Moments are shown as their texts. -/
def shown : Value → Value
  | .moment m => .text m.toText
  | v => v

def statRecord (s : TableStat) : Log.Record :=
  ⟨.info, "stats.table", [("table_name", shown s.tableName), ("table_size", shown s.tableSize),
    ("tuples_inserted", .int s.tuplesInserted), ("tuples_updated", .int s.tuplesUpdated),
    ("tuples_deleted", .int s.tuplesDeleted), ("tuples_live", .int s.tuplesLive), ("tuples_dead", .int s.tuplesDead),
    ("vacuum_count", .int s.vacuumCount), ("autovacuum_count", .int s.autovacuumCount),
    ("analyze_count", .int s.analyzeCount), ("autoanalyze_count", .int s.autoanalyzeCount),
    ("last_vacuum", shown s.lastVacuum), ("last_autovacuum", shown s.lastAutovacuum),
    ("last_analyze", shown s.lastAnalyze), ("last_autoanalyze", shown s.lastAutoanalyze)]⟩

theorem TableStat.record_eq (s : TableStat) : s.record = statRecord s := by
  have hlogged : TableStat.logged = shown := by
    funext v
    cases v <;> rfl
  rw [record, fields, hlogged]
  rfl

/-- These rows have these statistics, whose records can be written. -/
structure ReadAs (refusals : Log.Refusals) (rows : List Value) (stats : List TableStat) : Prop where
  read : rows.map TableStat.ofRow = stats.map .ok
  written : ∀ s ∈ stats, refusals (statRecord s) = none

/-- The statistics of the rows before what stops the reading. If all rows can be read, that is the fault behind
them, if there is one. -/
inductive ReadTo (refusals : Log.Refusals) (rows : List Value) (fault : Option Fault) :
    List TableStat → Option Fault → Prop
  | all {stats} (read : ReadAs refusals rows stats) : ReadTo refusals rows fault stats fault
  | bad {before row behind stats reason} (parts : rows = before ++ row :: behind) (read : ReadAs refusals before stats)
      (unread : TableStat.ofRow row = .error reason) :
      ReadTo refusals rows fault stats (some (.outside (.mishap reason.toMishap)))
  | unwritten {before row behind stats stat m} (parts : rows = before ++ row :: behind)
      (read : ReadAs refusals before stats) (last : TableStat.ofRow row = .ok stat)
      (refused : refusals (statRecord stat) = some m) : ReadTo refusals rows fault stats (some (.outside (.mishap m)))

variable {σ : Type} {conn : Connection σ} {s : Session σ} {refusals : Log.Refusals} {rows : List Value}
  {fault : Option Fault} {stats : List TableStat} {stop : Option Fault}

section ReadTo

variable {row : Value} {stat : TableStat} {reason : BadStatRow}

theorem ReadAs.nil (refusals : Log.Refusals) : ReadAs refusals [] [] :=
  ⟨rfl, fun _ h => absurd h List.not_mem_nil⟩

theorem ReadAs.cons (hrow : TableStat.ofRow row = .ok stat) (hstat : refusals (statRecord stat) = none)
    (h : ReadAs refusals rows stats) : ReadAs refusals (row :: rows) (stat :: stats) where
  read := by rw [List.map_cons, List.map_cons, hrow, h.read]
  written := List.forall_mem_cons.mpr ⟨hstat, h.written⟩

namespace ReadTo

theorem nil (refusals : Log.Refusals) (fault : Option Fault) : ReadTo refusals [] fault [] fault :=
  .all (.nil refusals)

theorem cons_ok (hrow : TableStat.ofRow row = .ok stat) (hstat : refusals (statRecord stat) = none)
    (h : ReadTo refusals rows fault stats stop) : ReadTo refusals (row :: rows) fault (stat :: stats) stop := by
  cases h with
  | all read => exact .all (.cons hrow hstat read)
  | bad parts read unread => exact .bad (congrArg (row :: ·) parts) (.cons hrow hstat read) unread
  | unwritten parts read last refused => exact .unwritten (congrArg (row :: ·) parts) (.cons hrow hstat read) last refused

theorem cons_error (hrow : TableStat.ofRow row = .error reason) :
    ReadTo refusals (row :: rows) fault [] (some (.outside (.mishap reason.toMishap))) :=
  .bad (show row :: rows = [] ++ row :: rows from rfl) (.nil refusals) hrow

theorem cons_unwritten {m : Mishap} (hrow : TableStat.ofRow row = .ok stat) (hstat : refusals (statRecord stat) = some m) :
    ReadTo refusals (row :: rows) fault [] (some (.outside (.mishap m))) :=
  .unwritten (show row :: rows = [] ++ row :: rows from rfl) (.nil refusals) hrow hstat

end ReadTo
end ReadTo

def Session.tell (s : Session σ) (stats : List TableStat) : Session σ :=
  { s with journal := s.journal ++ stats.map fun stat => .logged (statRecord stat) }

def readingEnd (stats : List TableStat) (stop : Option Fault) : Except Fault (List TableStat) :=
  stop.elim (.ok stats) .error

/-- Rows are read up to what stops the reading, and each is logged before the next is looked at. -/
theorem exists_readTo (refusals : Log.Refusals) (rows : List Value) (fault : Option Fault) :
    ∃ stats stop, ReadTo refusals rows fault stats stop ∧
      ∀ s : Session σ, readRows refusals rows fault s = (readingEnd stats stop, s.tell stats) := by
  induction rows with
  | nil =>
    refine ⟨[], fault, .nil refusals fault, fun s => ?_⟩
    cases fault <;> simp [readRows, readingEnd, Session.tell, bind, andThen, Job.failIf, Job.fail, Job.done, pure]
  | cons row rest ih =>
    cases hrow : TableStat.ofRow row with
    | error reason =>
      refine ⟨[], _, .cons_error hrow, fun s => ?_⟩
      simp [readRows, hrow, readingEnd, Session.tell, bind, andThen, Job.ofExcept, Job.fail]
    | ok stat =>
      have hstat : ∀ s : Session σ,
          Job.ofExcept ((TableStat.ofRow row).mapError BadStatRow.toMishap) s = (.ok stat, s) := by
        intro s
        rw [hrow]
        rfl
      cases hrefused : refusals (statRecord stat) with
      | some m =>
        have hlog : ∀ s : Session σ, Job.logUnless refusals stat.record s = (.error (.outside (.mishap m)), s) := by
          intro s
          rw [TableStat.record_eq, Job.logUnless, hrefused]
          rfl
        refine ⟨[], _, .cons_unwritten hrow hrefused, fun s => ?_⟩
        rw [readRows, bind_of_ok (hstat s), bind_of_error (hlog s)]
        simp [readingEnd, Session.tell]
      | none =>
        obtain ⟨stats, stop, hread, hrest⟩ := ih
        refine ⟨stat :: stats, stop, hread.cons_ok hrow hrefused, fun s => ?_⟩
        have hlog : Job.logUnless refusals stat.record s = (.ok (), s.log (statRecord stat)) := by
          rw [TableStat.record_eq, Job.logUnless, hrefused]
          rfl
        have htell : (s.log (statRecord stat)).tell stats = s.tell (stat :: stats) := by
          simp [Session.tell, Session.log, Session.note]
        rw [readRows, bind_of_ok (hstat s), bind_of_ok hlog]
        have hr := hrest (s.log (statRecord stat))
        rw [htell] at hr
        cases stop with
        | none => exact bind_of_ok hr
        | some f => exact bind_of_error hr

/-- The entries of a report whose query was answered: the statistics are logged, and the reply is closed. -/
def reportEvents (stats : List TableStat) : List Event :=
  [.executed .stats, .answered] ++ (stats.map fun stat => .logged (statRecord stat)) ++ [.closed]

theorem exists_report {reply : Reply} (h : (conn.execute .stats s.world).1 = .ok reply) :
    ∃ stats stop, ReadTo refusals reply.rows reply.fetchFault stats stop ∧ reportUnless refusals conn s =
      (reply.closeFault.elim ((readingEnd stats stop).mapError wrapUnreadable) .error,
        { s with world := (conn.execute .stats s.world).2, journal := s.journal ++ reportEvents stats }) := by
  obtain ⟨stats, stop, hread, hrows⟩ := exists_readTo (σ := σ) refusals reply.rows reply.fetchFault
  refine ⟨stats, stop, hread, ?_⟩
  let t : Session σ := { s.note (.executed .stats) with world := (conn.execute .stats s.world).2 }.note .answered
  have hquery : (Job.execute conn .stats).mapFault (wrapDriver .stats "Error querying vacuum stats: ") s = (.ok reply, t) := by
    simp [Job.mapFault, Job.execute, h, t]
  rw [reportUnless, bind_of_ok hquery, Job.always, Job.mapFault, hrows]
  cases hclose : reply.closeFault <;>
    simp [Job.close, hclose, Job.note, Job.change, Job.failIf, Job.fail, Job.done, bind, andThen, t, Session.tell,
      Session.note, reportEvents]

theorem report_of_error {d : DriverError} (h : (conn.execute .stats s.world).1 = .error (.outside (.driver d))) :
    reportUnless refusals conn s = (.error (.job ⟨.stats, "Error querying vacuum stats: " ++ d.message, some (.driver d)⟩),
      { s.note (.executed .stats) with world := (conn.execute .stats s.world).2 }) := by
  have hquery : (Job.execute conn .stats).mapFault (wrapDriver .stats "Error querying vacuum stats: ") s =
      (.error (.job ⟨.stats, "Error querying vacuum stats: " ++ d.message, some (.driver d)⟩),
        { s.note (.executed .stats) with world := (conn.execute .stats s.world).2 }) := by
    simp [Job.mapFault, Job.execute, h, wrapDriver]
  rw [reportUnless, bind_of_error hquery]

/-- The mishap is a bad value, a text that cannot be encoded, or a value of the wrong type. -/
def IsBadValue (m : Mishap) : Prop :=
  m.kind = .value ∨ m.kind = .encoding ∨ m.kind = .type

/-- Rows and records are good, or hold bad values or values of the wrong type, and the driver alone cuts the rows short. -/
structure IsLegible (refusals : Log.Refusals) (reply : Reply) : Prop where
  rows : ∀ row ∈ reply.rows, ∀ reason, TableStat.ofRow row = .error reason → IsBadValue reason.toMishap
  records : ∀ stat m, refusals (statRecord stat) = some m → IsBadValue m
  cut : ∀ f, reply.fetchFault = some f → IsDriverFault f

/-- What a report comes to: the statistics of all rows, or the error that remembers what stopped the reading. -/
inductive ReportEnds (stats : List TableStat) : Option Fault → Except Fault (List TableStat) → Prop
  | complete : ReportEnds stats none (.ok stats)
  | stopped {cause} : ReportEnds stats (some (.outside cause))
      (.error (.job ⟨.stats, "Error reading vacuum stats row: " ++ cause.message, some cause⟩))

theorem ReadTo.ends {reply : Reply} (h : ReadTo refusals reply.rows reply.fetchFault stats stop)
    (hreply : IsLegible refusals reply) : ReportEnds stats stop ((readingEnd stats stop).mapError wrapUnreadable) := by
  have hunreadable : ∀ cause, isUnreadable cause = true →
      ReportEnds stats (some (.outside cause)) (.error (wrapUnreadable (.outside cause))) := by
    intro cause hcause
    rw [wrapUnreadable, if_pos hcause]
    exact .stopped
  have hbad : ∀ {m}, IsBadValue m → isUnreadable (.mishap m) = true := by
    rintro m (hkind | hkind | hkind) <;> simp [isUnreadable, hkind]
  generalize hfault : reply.fetchFault = fault at h
  cases h with
  | all read =>
    cases stop with
    | none => exact .complete
    | some f =>
      obtain ⟨d, rfl⟩ := hreply.cut f hfault
      exact hunreadable _ rfl
  | bad parts read unread =>
    exact hunreadable _ (hbad (hreply.rows _ (parts ▸ List.mem_append_cons_self) _ unread))
  | unwritten parts read last refused => exact hunreadable _ (hbad (hreply.records _ _ refused))

/-- A report logs the rows before what stops the reading, one record for each, and closes the reply once. It returns
their statistics if nothing stops it, else it fails with what did, and if the query itself fails it logs nothing. -/
theorem report_exact (conn : Connection σ) (refusals : Log.Refusals) (s : Session σ) :
    (∀ d, (conn.execute .stats s.world).1 = .error (.outside (.driver d)) →
      (reportUnless refusals conn s).1 =
        .error (.job ⟨.stats, "Error querying vacuum stats: " ++ d.message, some (.driver d)⟩) ∧
      (reportUnless refusals conn s).2.journal = s.journal ++ [.executed .stats]) ∧
    ∀ reply, (conn.execute .stats s.world).1 = .ok reply →
      ∃ stats stop, ReadTo refusals reply.rows reply.fetchFault stats stop ∧
        (reportUnless refusals conn s).2.journal = s.journal ++ reportEvents stats ∧
        (IsLegible refusals reply →
          ∃ r, ReportEnds stats stop r ∧ (reportUnless refusals conn s).1 = reply.closeFault.elim r .error) := by
  constructor
  · intro d h
    rw [report_of_error h]
    exact ⟨rfl, rfl⟩
  · intro reply h
    obtain ⟨stats, stop, hread, hreport⟩ := exists_report h
    rw [hreport]
    exact ⟨stats, stop, hread, rfl, fun hreply => ⟨_, hread.ends hreply, rfl⟩⟩

def statRow (name : String) (live : Value) : Value :=
  .list [.text name, .text "16 kB", .int 10, .int 2, .int 3, live, .int 3, .int 1, .int 4, .int 1, .int 5, .null, .null,
    .null, .null]

/-- Of three rows, the second has no number of live rows. -/
def halfRead : Reply :=
  { Reply.empty with rows := [statRow "composes" (.int 3), statRow "clones" .null, statRow "projects" (.int 1)] }

theorem isLegible_halfRead : IsLegible .none halfRead where
  rows := by
    intro row hrow reason hreason
    simp only [halfRead, List.mem_cons, List.not_mem_nil, or_false] at hrow
    rcases hrow with rfl | rfl | rfl <;> cases hreason
    exact .inr (.inr rfl)
  records := fun _ _ h => nomatch h
  cut := fun _ hf => nomatch hf

def asciiNames : Log.Refusals := fun r =>
  match r.field? "table_name" with
  | some (.text name) =>
    if name.toList.all (·.toNat < 128) then none else some ⟨.encoding, "'ascii' codec can't encode characters"⟩
  | _ => none

def accented : Reply :=
  { Reply.empty with rows := [statRow "composes" (.int 3), statRow "modèles" (.int 1), statRow "projects" (.int 1)] }

theorem isLegible_accented : IsLegible asciiNames accented where
  rows := by
    intro row hrow reason hreason
    simp only [accented, List.mem_cons, List.not_mem_nil, or_false] at hrow
    rcases hrow with rfl | rfl | rfl <;> cases hreason
  records := by
    intro stat m hm
    unfold asciiNames at hm
    split at hm
    · split at hm <;> cases hm
      exact .inr (.inl rfl)
    · cases hm
  cut := fun _ hf => nomatch hf

theorem report_halfRead :
    let conn := Script.connection "postgresql"
    let s : Session Script := .start [.ok halfRead]
    let t : Session Script := .start [.ok accented]
    (∃ stats stop, ReadTo .none halfRead.rows none stats stop ∧ stats.length = 1 ∧
      (report conn s).2.journal = reportEvents stats ∧ ReportEnds stats stop (report conn s).1) ∧
    ∃ stats stop, ReadTo asciiNames accented.rows none stats stop ∧ stats.length = 1 ∧
      ReportEnds stats stop (reportUnless asciiNames conn t).1 := by
  intro conn s t
  have hone : ∀ {journal : List Event} {stats}, journal = reportEvents stats → journal.length = 4 → stats.length = 1 := by
    rintro journal stats rfl hlength
    simpa [reportEvents] using hlength
  constructor
  · obtain ⟨stats, stop, hread, hjournal, hends⟩ := (report_exact conn .none s).2 halfRead rfl
    obtain ⟨r, hends, hr⟩ := hends isLegible_halfRead
    exact ⟨stats, stop, hread, hone hjournal (by decide +kernel), hjournal, hr ▸ hends⟩
  · obtain ⟨stats, stop, hread, hjournal, hends⟩ := (report_exact conn asciiNames t).2 accented rfl
    obtain ⟨r, hends, hr⟩ := hends isLegible_accented
    exact ⟨stats, stop, hread, hone hjournal (by decide +kernel), hr ▸ hends⟩

end Retention.Run
