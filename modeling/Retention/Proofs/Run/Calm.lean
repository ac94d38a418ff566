import Retention.Proofs.Database.History
import Retention.Proofs.Database.Purge
import Retention.Proofs.Run.Course

/-! # Calm trials

Nobody else writes to a calm trial, and what fails in it are driver errors of a given kind. A live
run on a calm trial purges the store; if it is cut short, the store is left in a phase of that purge
and the totals are those of the phase.
-/

namespace Retention.Run

open Calendar Database Job

def AreDriverErrors (F : Fault → Prop) : Prop :=
  ∀ f, F f → IsDriverFault f

/-- Nobody inserts rows, statements fail with the given faults only, statistics are observed, and
the store may be written. -/
structure Calm (F : Fault → Prop) (t : Trial) : Prop where
  inserts : ∀ slot ∈ t.upcoming, slot.inserts = []
  faults : ∀ slot ∈ t.upcoming, ∀ f, slot.fault = some f → F f
  stats : ∀ answer ∈ t.stats, Observed answer
  writable : t.isReadOnly = false

theorem calm_quiet (F : Fault → Prop) (X : Store) : Calm F (.quiet X) :=
  ⟨by simp [Trial.quiet], by simp [Trial.quiet], by simp [Trial.quiet], rfl⟩

section Trial

variable {F : Fault → Prop} {t : Trial} {st : Statement} {r : Reply} {s : Store}

def passed (t : Trial) : Trial :=
  { t with upcoming := t.upcoming.tail }

theorem Calm.passed (h : Calm F t) : Calm F (passed t) where
  inserts slot hs := h.inserts slot (List.mem_of_mem_tail hs)
  faults slot hs := h.faults slot (List.mem_of_mem_tail hs)
  stats := h.stats
  writable := h.writable

/-- The next statement fails with one of the faults, or the store that was there answers it. -/
theorem Calm.execute_cases (h : Calm F t) (st : Statement) :
    (∃ f, F f ∧ t.execute st = (.error f, Run.passed t)) ∨ t.execute st = (Run.passed t).answer st := by
  have hinserts : t.slot.inserts = [] ∧ ∀ f, t.slot.fault = some f → F f := by
    unfold Trial.slot
    cases hu : t.upcoming with
    | nil => exact ⟨rfl, fun f hf => by simp [Slot.quiet] at hf⟩
    | cons first rest => exact ⟨h.inserts first (by simp [hu]), h.faults first (by simp [hu])⟩
  have harrive : t.arrive = (.ok (), Run.passed t) := by
    simp [Trial.arrive, hinserts.1, Store.insertAll, Run.passed]
  unfold Trial.execute
  rw [harrive]
  cases hf : t.slot.fault with
  | some f => exact .inl ⟨f, hinserts.2 f hf, rfl⟩
  | none => exact .inr rfl

theorem Calm.answer (h : Calm F t) (hst : st ≠ .stats) (hx : t.store.execute st = (.ok r, s)) :
    t.answer st = (.ok r, { t with store := s }) := by
  rw [Trial.answer_performed fun hs => absurd hs hst, Trial.perform, h.writable,
    if_neg Bool.false_ne_true, hx]
  rfl

theorem Calm.answer_stats (h : Calm F t) :
    Observed (t.answer .stats).1 ∧ Calm F (t.answer .stats).2 ∧ (t.answer .stats).2.store = t.store := by
  cases hs : t.stats with
  | cons reply rest =>
    rw [Trial.answer_scripted hs]
    refine ⟨h.stats reply (by simp [hs]), ⟨h.inserts, h.faults, fun a ha => ?_, h.writable⟩, rfl⟩
    exact h.stats a (by simp [hs, show a ∈ rest from ha])
  | nil =>
    have hw : t.perform .stats = (.error (noSuchTable "pg_stat_user_tables"), t.store) := by
      rw [Trial.perform, h.writable]
      rfl
    rw [Trial.answer_performed fun _ => hs, hw]
    exact ⟨⟨_, rfl⟩, ⟨h.inserts, h.faults, h.stats, h.writable⟩, rfl⟩

end Trial

/-- The trial is calm, and the store and the tally have come to these values; no expired rows were
counted. -/
structure Standing (F : Fault → Prop) (store : Store) (iterations clones composes : Nat)
    (s : Session Trial) : Prop where
  calm : Calm F s.world
  store : s.world.store = store
  iterations : s.tally.iterations = iterations
  clonesDeleted : s.tally.clonesDeleted = .whole clones
  composesDeleted : s.tally.composesDeleted = .whole composes
  uncounted : s.tally.expiredClones = none ∧ s.tally.expiredComposes = none

/-- An error of the job that one of the faults led to. -/
def Caused (F : Fault → Prop) (e : Fault) : Prop :=
  ∃ f error, F f ∧ e = .job error

section Rules

variable {F : Fault → Prop} {dialect : String} {cutoff : Moment} {X Y : Store} {n a b k : Nat}
  {st : Statement} {r : Reply}
  {E : Fault → Session Trial → Prop}

theorem Standing.note {s : Session Trial} (h : Standing F X n a b s) (e : Event) :
    Standing F X n a b (s.note e) :=
  ⟨h.calm, h.store, h.iterations, h.clonesDeleted, h.composesDeleted, h.uncounted⟩

theorem steady_standing : Steady (Standing F X n a b) where
  note _ h := h.note _
  stage _ h := ⟨h.calm, h.store, h.iterations, h.clonesDeleted, h.composesDeleted, h.uncounted⟩

theorem Standing.of_world {s : Session Trial} {t : Trial} (h : Standing F X n a b s) (hcalm : Calm F t)
    (hstore : t.store = Y) : Standing F Y n a b { s with world := t } :=
  ⟨hcalm, hstore, h.iterations, h.clonesDeleted, h.composesDeleted, h.uncounted⟩

theorem caused_wrapDriver (hF : AreDriverErrors F) {kind : JobErrorKind} {text : String}
    {f : Fault} (hf : F f) :
    Caused F (wrapDriver kind text f) := by
  obtain ⟨d, rfl⟩ := hF f hf
  exact ⟨_, _, hf, rfl⟩

theorem triple_execute_standing (hst : st ≠ .stats) (hx : X.execute st = (.ok r, Y)) :
    Triple (Standing F X n a b) (Job.execute (Trial.connection dialect) st)
      (fun reply s => reply = r ∧ Standing F Y n a b s) (fun e s => F e ∧ Standing F X n a b s) := by
  have hcases : ∀ {s : Session Trial}, Standing F X n a b s →
      (∃ f, F f ∧ s.world.execute st = (.error f, passed s.world)) ∨
        s.world.execute st = (.ok r, { passed s.world with store := Y }) := by
    intro s h
    refine (h.calm.execute_cases st).imp_right fun hs => ?_
    rw [hs, h.calm.passed.answer hst (s := Y) (r := r)]
    rwa [show (passed s.world).store = X from h.store]
  apply Triple.execute
  · intro s reply w h hr
    rcases hcases h with ⟨f, -, hs⟩ | hs
    · cases hs.symm.trans hr
    · cases hs.symm.trans hr
      have hp := h.calm.passed
      have hY := (h.note (.executed st)).of_world (t := { passed s.world with store := Y })
        ⟨hp.inserts, hp.faults, hp.stats, hp.writable⟩ rfl
      exact ⟨rfl, hY.note _⟩
  · intro s e w h hr
    rcases hcases h with ⟨f, hf, hs⟩ | hs
    · cases hs.symm.trans hr
      exact ⟨hf, (h.note _).of_world h.calm.passed h.store⟩
    · cases hs.symm.trans hr

theorem triple_execute_stats (hF : AreDriverErrors F) :
    Triple (Standing F X n a b) (Job.execute (Trial.connection dialect) .stats)
      (fun reply s => Standing F X n a b s ∧ Observed (.ok reply))
      (fun e s => Standing F X n a b s ∧ Observed (.error e)) := by
  have hcases : ∀ {s : Session Trial}, Standing F X n a b s →
      Observed (s.world.execute .stats).1 ∧ Calm F (s.world.execute .stats).2 ∧
        (s.world.execute .stats).2.store = X := by
    intro s h
    rcases h.calm.execute_cases .stats with ⟨f, hf, hs⟩ | hs
    · rw [hs]
      exact ⟨hF f hf, h.calm.passed, h.store⟩
    · rw [hs]
      obtain ⟨ho, hc, hstore⟩ := h.calm.passed.answer_stats
      exact ⟨ho, hc, hstore.trans h.store⟩
  apply Triple.execute
  · intro s reply w h hr
    obtain ⟨ho, hc, hstore⟩ := hcases h
    rw [show s.world.execute .stats = (.ok reply, w) from hr] at ho hc hstore
    exact ⟨((h.note _).of_world hc hstore).note _, ho⟩
  · intro s e w h hr
    obtain ⟨ho, hc, hstore⟩ := hcases h
    rw [show s.world.execute .stats = (.error e, w) from hr] at ho hc hstore
    exact ⟨(h.note _).of_world hc hstore, ho⟩

theorem triple_statistics_standing (hF : AreDriverErrors F) :
    Triple (Standing F X n a b) (statistics (Trial.connection dialect)) (fun _ => Standing F X n a b) E :=
  triple_statistics steady_standing (report_triple steady_standing (triple_execute_stats hF)) (fun _ _ _ h => h.2)
    fun _ _ hn h => absurd h.1 hn

theorem triple_deleteExpired_standing (table : Table) (hF : AreDriverErrors F)
    (hx : X.execute (table.deletion cutoff) = (.ok (.counting k), Y)) :
    Triple (Standing F X n a b) (deleteExpired (Trial.connection dialect) table cutoff)
      (fun rows s => rows = .number k ∧ Standing F Y n a b s) (fun e s => Caused F e ∧ Standing F X n a b s) := by
  have hst : table.deletion cutoff ≠ .stats := by cases table <;> simp [Table.deletion]
  apply triple_deleteExpired fun _ => steady_standing.and_left
  apply (triple_execute_standing hst hx).conseq (fun _ h => h)
  · rintro reply s ⟨rfl, h⟩
    exact ⟨_, Reply.affected_counting k, rfl, h⟩
  · exact fun e s h => ⟨caused_wrapDriver hF h.1, h.2⟩

theorem triple_executeAll_standing {sts : List Statement}
    (hsts : ∀ st ∈ sts, X.execute st = (.ok .empty, X)) :
    Triple (Standing F X n a b) (executeAll (Trial.connection dialect) sts) (fun _ => Standing F X n a b)
      (fun e s => F e ∧ Standing F X n a b s) := by
  apply triple_executeAll (Q := fun _ => Standing F X n a b)
  intro st hmem rest
  have hx := hsts st hmem
  have hst : st ≠ .stats := by
    rintro rfl
    simp [Store.execute] at hx
  exact (triple_execute_standing hst hx).conseq (fun _ h => h) (fun _ _ h => h.2) fun _ _ h => h

theorem triple_reclaim_standing (hF : AreDriverErrors F) :
    Triple (Standing F X n a b) (reclaim (Trial.connection dialect)) (fun _ => Standing F X n a b)
      (fun e s => Caused F e ∧ Standing F X n a b s) := by
  apply Triple.bind (Q := fun _ => Standing F X n a b)
  · apply Triple.mapFault
    apply (triple_executeAll_standing _).conseq (fun _ h => h) (fun _ _ h => h)
    · exact fun e s h => ⟨caused_wrapDriver hF h.1, h.2⟩
    · unfold reclaimStatements
      split <;> simp [Store.execute]
  · exact fun _ => steady_standing.triple_log _

/-- The store and the totals of a purge that was cut short, on top of earlier totals. -/
def Halted (F : Fault → Prop) (cutoff : Moment) (X : Store) (n a b : Nat) (e : Fault)
    (s : Session Trial) : Prop :=
  Caused F e ∧ ∃ phase : Phase,
    Standing F (phase.store cutoff X) n (a + phase.clones cutoff X) (b + phase.composes cutoff X) s

/-- One pass purges the store. -/
theorem triple_pass (hF : AreDriverErrors F) (ht : X.HasTables) :
    Triple (Standing F X n a b) (pass (Trial.connection dialect) cutoff)
      (fun rows s => rows = (.number (X.clonesDue cutoff), .number (X.composesDue cutoff)) ∧
        Standing F (X.purge cutoff) (n + 1) (a + X.clonesDue cutoff) (b + X.composesDue cutoff) s)
      (Halted F cutoff X (n + 1) a b) := by
  apply Triple.bind (Q := fun _ => Standing F X (n + 1) a b)
  · intro s h
    exact ⟨h.calm, h.store, congrArg (· + 1) h.iterations, h.clonesDeleted, h.composesDeleted, h.uncounted⟩
  intro _
  apply Triple.bind
  · exact (triple_deleteExpired_standing .clones hF (Store.execute_deleteClones ht)).conseq (fun _ h => h)
      (fun _ _ h => h) fun e s h => ⟨h.1, .untouched, h.2⟩
  intro clones
  apply Triple.assume
  rintro rfl
  apply Triple.bind (Q := fun _ => Standing F (X.disown cutoff) (n + 1) (a + X.clonesDue cutoff) b)
  · apply triple_addClones
    exact fun s h => ⟨a, h.clonesDeleted, h.calm, h.store, h.iterations, rfl, h.composesDeleted, h.uncounted⟩
  intro _
  apply Triple.bind
  · exact (triple_deleteExpired_standing .composes hF (Store.execute_deleteComposes ht)).conseq (fun _ h => h)
      (fun _ _ h => h) fun e s h => ⟨h.1, .disowned, h.2⟩
  intro composes
  apply Triple.assume
  rintro rfl
  apply Triple.bind (Q := fun _ =>
    Standing F (X.purge cutoff) (n + 1) (a + X.clonesDue cutoff) (b + X.composesDue cutoff))
  · apply triple_addComposes
    exact fun s h => ⟨b, h.composesDeleted, h.calm, h.store, h.iterations, h.clonesDeleted, rfl, h.uncounted⟩
  intro _
  apply Triple.bind
  · exact (triple_reclaim_standing hF).conseq (fun _ h => h) (fun _ _ h => h) fun e s h => ⟨h.1, .purged, h.2⟩
  intro _
  exact .done fun s h => ⟨rfl, h⟩

/-- The first pass purges the store, and if it deleted composes a second one finds nothing more. -/
theorem triple_deleteLoop_standing (hF : AreDriverErrors F) (ht : X.HasTables) :
    Triple (Standing F X 0 0 0) (deleteLoop (Trial.connection dialect) cutoff)
      (fun _ => Standing F (X.purge cutoff) (if X.composesDue cutoff = 0 then 1 else 2) (X.clonesDue cutoff)
        (X.composesDue cutoff))
      (fun e s => ∃ n, Halted F cutoff X n 0 0 e s) := by
  apply Triple.conseq (P := fun s => Standing F X 0 0 0 s ∨ X.composesDue cutoff ≠ 0 ∧
    Standing F (X.purge cutoff) 1 (X.clonesDue cutoff) (X.composesDue cutoff) s) _ (fun _ h => .inl h)
    (fun _ _ h => h) fun _ _ h => h
  apply triple_deleteLoop
  rintro s (h | ⟨hdue, h⟩)
  · apply (triple_pass hF ht s h).mono _ fun e t h => ⟨1, h⟩
    rintro rows t ⟨rfl, h⟩
    simp only [Rows.isZero, beq_iff_eq, Nat.zero_add] at h ⊢
    split
    · exact h
    · exact .inr ⟨‹_›, h.note _⟩
  · apply (triple_pass hF ht.purge s h).mono
    · rintro rows t ⟨rfl, h⟩
      simpa [Rows.isZero, Store.composesDue_purge, Store.clonesDue_purge, Store.purge_purge, hdue] using h
    · rintro e t ⟨he, phase, h⟩
      obtain ⟨hstore, hclones, hcomposes⟩ := phase.of_purge X
      rw [hstore, hclones, hcomposes] at h
      exact ⟨2, he, .purged, by simpa [Phase.store, Phase.clones, Phase.composes] using h⟩

theorem triple_maintain_standing {dryRun : Value} (hF : AreDriverErrors F) (hlive : dryRun.holds = false)
    (ht : X.HasTables) :
    Triple (Standing F X 0 0 0) (maintain (Trial.connection dialect) dryRun cutoff)
      (fun _ => Standing F (X.purge cutoff) (if X.composesDue cutoff = 0 then 1 else 2) (X.clonesDue cutoff)
        (X.composesDue cutoff))
      (fun e s => ∃ n, Halted F cutoff X n 0 0 e s) := by
  apply triple_maintain_live hlive steady_standing steady_standing steady_standing _ _ (triple_statistics_standing hF)
    (triple_statistics_standing hF) (triple_deleteLoop_standing hF ht)
  · exact fun s l h => ⟨h.calm, h.store, h.iterations, h.clonesDeleted, h.composesDeleted, h.uncounted⟩
  · exact fun s l h => ⟨h.calm, h.store, h.iterations, h.clonesDeleted, h.composesDeleted, h.uncounted⟩

end Rules

section Run

variable {F : Fault → Prop} (dialect : String) {faults : StepFaults} {plan : Plan} {now cutoff : Moment}
  {s : Session Trial}

/-- A live run on a calm trial is done with the purge of the store, or one of the faults has cut it
short. -/
theorem run_calm (hF : AreDriverErrors F) (hfaults : faults.Within F) (hplan : plan.Deletes now cutoff)
    (hcalm : Calm F s.world) (ht : s.world.store.HasTables) :
    let r := run ⟨Trial.connection dialect, openConnection faults⟩ plan now s
    let X := s.world.store
    (r.1 = .done ⟨cutoff, plan.dryRun, r.2.tally⟩ ∧
      Standing F (X.purge cutoff) (if X.composesDue cutoff = 0 then 1 else 2) (X.clonesDue cutoff)
        (X.composesDue cutoff) r.2) ∨
    ((∃ e, r.1 = .aborted e ⟨cutoff, plan.dryRun, r.2.tally⟩) ∧ (∃ f, F f) ∧ ∃ n, ∃ phase : Phase,
      Standing F (phase.store cutoff X) n (phase.clones cutoff X) (phase.composes cutoff X) r.2) := by
  have hstart : Standing F s.world.store 0 0 0 (starting s) := ⟨hcalm, rfl, rfl, rfl, rfl, rfl, rfl⟩
  have hsteady : ∀ e, Steady fun t => ∃ n, Halted F cutoff s.world.store n 0 0 e t := fun e =>
    .exists_left fun n => .and_left (.exists_left fun phase => steady_standing)
  have hopening : ∀ {st kind text f t}, F f → Standing F s.world.store 0 0 0 t →
      ∃ n, Halted F cutoff s.world.store n 0 0 (wrapDriver kind text (Step.leaving st f)) t := fun {st _ _ f _} hf h =>
    ⟨0, ((hF f hf).leaving st).symm ▸ caused_wrapDriver hF hf, .untouched, h⟩
  have hbody : Triple _
      (openConnection faults plan.url (maintain (Trial.connection dialect) plan.dryRun cutoff)) _ _ :=
    triple_openConnection steady_standing steady_standing hsteady hfaults.options hfaults.close hfaults.dispose
      (fun f hf _ h => hopening (hfaults.create f hf) h) (fun f hf _ h => hopening (hfaults.connect f hf) h)
      (triple_maintain_standing hF hplan.live ht)
  rcases run_cases ⟨Trial.connection dialect, openConnection faults⟩ hplan.cutoff hstart hbody with
    ⟨t, h, hr⟩ | ⟨e, t, ⟨n, ⟨f, _, hf, -⟩, phase, h⟩, hr⟩ | ⟨cause, t, ⟨n, ⟨f, _, -, he⟩, -⟩, -⟩
  · rw [hr]
    exact .inl ⟨rfl, steady_standing.log _ (steady_standing.enter _ h)⟩
  · rw [hr]
    rw [Nat.zero_add, Nat.zero_add] at h
    exact .inr ⟨⟨e, rfl⟩, ⟨f, hf⟩, n, phase, steady_standing.log _ (steady_standing.enter _ h)⟩
  · cases he

theorem run_quiet (hplan : plan.Deletes now cutoff) (hcalm : Calm (fun _ => False) s.world)
    (ht : s.world.store.HasTables) :
    let r := run ⟨Trial.connection dialect, openConnection .none⟩ plan now s
    let X := s.world.store
    r.1 = .done ⟨cutoff, plan.dryRun, r.2.tally⟩ ∧
      Standing (fun _ => False) (X.purge cutoff) (if X.composesDue cutoff = 0 then 1 else 2) (X.clonesDue cutoff)
        (X.composesDue cutoff) r.2 := by
  rcases run_calm dialect (fun _ h => h.elim) (StepFaults.within_none _) hplan hcalm ht with
    h | ⟨-, ⟨_, hf⟩, -⟩
  · exact h
  · exact hf.elim

theorem run_summary (hF : AreDriverErrors F) (hfaults : faults.Within F) (hplan : plan.Deletes now cutoff)
    (hcalm : Calm F s.world) (ht : s.world.store.HasTables) :
    let r := run ⟨Trial.connection dialect, openConnection faults⟩ plan now s
    let X := s.world.store
    r.1.summary? = some ⟨cutoff, plan.dryRun, r.2.tally⟩ ∧ ∃ n, ∃ phase : Phase,
      Standing F (phase.store cutoff X) n (phase.clones cutoff X) (phase.composes cutoff X) r.2 := by
  intro r X
  rcases run_calm dialect hF hfaults hplan hcalm ht with ⟨hr, h⟩ | ⟨⟨e, hr⟩, -, h⟩
  · exact ⟨congrArg Ending.summary? hr, _, .purged, h⟩
  · exact ⟨congrArg Ending.summary? hr, h⟩

end Run
end Retention.Run
