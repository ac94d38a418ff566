import Retention.Proofs.Database.History
import Retention.Proofs.Run.Course

/-! # Interleavings

A run executes statements on a trial, into which others insert rows before any statement and in
which any statement may fail. Its accounts compare the totals of its tally with what its statements
removed: between two statements they balance, up to the rows of a deletion that the tally has yet to
add.
-/

namespace Retention.Run

open Calendar Database Job

/-- Since a trial and the statements before it, a session has executed statements at one cutoff, and
its tally lacks some of the rows that these removed. -/
structure Accounts (start : Trial) (past : List Statement) (cutoff : Moment) (clones composes : Nat)
    (sts : List Statement) (s : Session Trial) : Prop where
  executed : Run.executed s.journal = past ++ sts
  world : s.world = start.after sts
  cutoffs : ∀ m ∈ start.history sts, m.IsAt cutoff
  clonesDeleted : s.tally.clonesDeleted = .whole (start.clonesLost sts - clones)
  composesDeleted : s.tally.composesDeleted = .whole (start.composesLost sts - composes)

def Lacking (start : Trial) (past : List Statement) (cutoff : Moment) (clones composes : Nat)
    (s : Session Trial) : Prop :=
  ∃ sts, Accounts start past cutoff clones composes sts s

section Accounts

variable {start : Trial} {past sts : List Statement} {cutoff : Moment} {clones composes : Nat}
  {s : Session Trial}

theorem Accounts.note {e : Event} (he : e.statement? = none)
    (h : Accounts start past cutoff clones composes sts s) :
    Accounts start past cutoff clones composes sts (s.note e) where
  executed := by
    rw [← h.executed]
    simp [Session.note, Run.executed, he]
  world := h.world
  cutoffs := h.cutoffs
  clonesDeleted := h.clonesDeleted
  composesDeleted := h.composesDeleted

theorem Accounts.stage (stage : Stage) (h : Accounts start past cutoff clones composes sts s) :
    Accounts start past cutoff clones composes sts { s with stage } :=
  ⟨h.executed, h.world, h.cutoffs, h.clonesDeleted, h.composesDeleted⟩

/-- The rows that a statement removes are lacking until they are added. -/
theorem Accounts.execute {st : Statement} {m : Turn} (hm : m = ⟨s.world, st⟩) (hat : m.IsAt cutoff)
    (h : Accounts start past cutoff 0 0 sts s) :
    Accounts start past cutoff m.lostClones.length m.lostComposes.length (sts ++ [st])
      { s.note (.executed st) with world := (s.world.execute st).2 } where
  executed := by
    rw [← List.append_assoc, ← h.executed]
    exact executed_append s.journal [.executed st]
  world := by rw [Trial.after_append_singleton, h.world]
  cutoffs := by
    rw [Trial.history_append_singleton, ← h.world, ← hm]
    intro n hn
    rcases List.mem_append.mp hn with hn | hn
    · exact h.cutoffs n hn
    · exact List.mem_singleton.mp hn ▸ hat
  clonesDeleted := by
    rw [Trial.clonesLost_append_singleton, ← h.world, ← hm]
    simpa [Session.note] using h.clonesDeleted
  composesDeleted := by
    rw [Trial.composesLost_append_singleton, ← h.world, ← hm]
    simpa [Session.note] using h.composesDeleted

theorem steady_lacking : Steady (Lacking start past cutoff clones composes) where
  note he := fun ⟨sts, h⟩ => ⟨sts, h.note he⟩
  stage stage := fun ⟨sts, h⟩ => ⟨sts, h.stage stage⟩

end Accounts

section Rules

variable {dialect : String} {start : Trial} {past : List Statement} {cutoff : Moment}

theorem triple_execute_lacking (st : Statement) {Q : Reply → Session Trial → Prop}
    (hat : ∀ c, st.cutoff? = some c → c = cutoff)
    (hok : ∀ t r s, (t.execute st).1 = .ok r →
      Lacking start past cutoff (Turn.mk t st).lostClones.length (Turn.mk t st).lostComposes.length s → Q r s) :
    Triple (Lacking start past cutoff 0 0) (Job.execute (Trial.connection dialect) st) Q
      (fun _ => Lacking start past cutoff 0 0) := by
  apply Triple.execute
  · rintro s r w ⟨sts, h⟩ hr
    have hw : w = (s.world.execute st).2 := (congrArg Prod.snd hr).symm
    apply hok s.world r _ (congrArg Prod.fst hr)
    exact ⟨_, hw ▸ (h.execute rfl hat).note rfl⟩
  · rintro s e w ⟨sts, h⟩ hr
    have hw : w = (s.world.execute st).2 := (congrArg Prod.snd hr).symm
    obtain ⟨hcl, hco⟩ := Turn.lost_of_error (m := ⟨s.world, st⟩) (congrArg Prod.fst hr)
    have := h.execute rfl hat
    rw [hcl, hco] at this
    exact ⟨_, hw ▸ this⟩

theorem keeps_execute_lacking {st : Statement} (hst : st.cutoff? = none) :
    Keeps (Lacking start past cutoff 0 0) (Job.execute (Trial.connection dialect) st) := by
  apply triple_execute_lacking st (fun c hc => by simp [hst] at hc)
  intro t r s _ h
  rwa [Turn.lostClones_of_ne, Turn.lostComposes_of_ne] at h
  all_goals
    rintro c rfl
    simp [Statement.cutoff?] at hst

/-- The rows of a deletion, if it succeeds, are what the totals lack. -/
def Table.lacking (table : Table) (start : Trial) (past : List Statement) (cutoff : Moment) (n : Nat) :
    Session Trial → Prop :=
  match table with
  | .clones => Lacking start past cutoff n 0
  | .composes => Lacking start past cutoff 0 n

theorem triple_deleteExpired_lacking (table : Table) :
    Triple (Lacking start past cutoff 0 0) (deleteExpired (Trial.connection dialect) table cutoff)
      (fun rows s => ∃ n, rows = .number n ∧ table.lacking start past cutoff n s)
      (fun _ => Lacking start past cutoff 0 0) := by
  have hsteady : ∀ n, Steady (table.lacking start past cutoff n) := fun n => by
    cases table <;> exact steady_lacking
  apply triple_deleteExpired fun _ => .exists_left fun n => (hsteady n).and_left
  cases table with
  | clones =>
    apply triple_execute_lacking (.deleteClones cutoff) fun c hc => (Option.some.inj hc).symm
    intro t r s hr h
    obtain ⟨-, rfl⟩ := Turn.lostClones_deleteClones (m := ⟨t, _⟩) rfl hr
    rw [Turn.lostComposes_of_ne (by simp)] at h
    exact ⟨_, Reply.affected_counting _, _, rfl, h⟩
  | composes =>
    apply triple_execute_lacking (.deleteComposes cutoff) fun c hc => (Option.some.inj hc).symm
    intro t r s hr h
    obtain ⟨-, rfl⟩ := Turn.lostComposes_deleteComposes (m := ⟨t, _⟩) rfl hr
    rw [Turn.lostClones_of_ne (by simp)] at h
    exact ⟨_, Reply.affected_counting _, _, rfl, h⟩

theorem triple_recount_clones (rows : Rows) :
    Triple (fun s => ∃ n, rows = .number n ∧ Table.lacking .clones start past cutoff n s)
      (Job.recount (Tally.addClones rows)) (fun _ => Lacking start past cutoff 0 0)
      (fun _ => Lacking start past cutoff 0 0) := by
  rintro s ⟨n, rfl, hlacking⟩
  apply triple_addClones (P := Table.lacking .clones start past cutoff n) _ s hlacking
  rintro s ⟨sts, h⟩
  exact ⟨_, h.clonesDeleted, sts, h.executed, h.world, h.cutoffs, by simp, h.composesDeleted⟩

theorem triple_recount_composes (rows : Rows) :
    Triple (fun s => ∃ n, rows = .number n ∧ Table.lacking .composes start past cutoff n s)
      (Job.recount (Tally.addComposes rows)) (fun _ => Lacking start past cutoff 0 0)
      (fun _ => Lacking start past cutoff 0 0) := by
  rintro s ⟨n, rfl, hlacking⟩
  apply triple_addComposes (P := Table.lacking .composes start past cutoff n) _ s hlacking
  rintro s ⟨sts, h⟩
  exact ⟨_, h.composesDeleted, sts, h.executed, h.world, h.cutoffs, h.clonesDeleted, by simp⟩

theorem keeps_executeAll_lacking {sts : List Statement} (hsts : ∀ st ∈ sts, st.cutoff? = none) :
    Keeps (Lacking start past cutoff 0 0) (executeAll (Trial.connection dialect) sts) :=
  triple_executeAll (Q := fun _ => Lacking start past cutoff 0 0) fun st hst _ => keeps_execute_lacking (hsts st hst)

theorem keeps_pass_lacking :
    Keeps (Lacking start past cutoff 0 0) (pass (Trial.connection dialect) cutoff) := by
  apply Triple.bind (Q := fun _ => Lacking start past cutoff 0 0)
  · exact fun s ⟨sts, h⟩ => ⟨sts, h.executed, h.world, h.cutoffs, h.clonesDeleted, h.composesDeleted⟩
  intro _
  apply Triple.bind (triple_deleteExpired_lacking .clones)
  intro clones
  apply Triple.bind (triple_recount_clones clones)
  intro _
  apply Triple.bind (triple_deleteExpired_lacking .composes)
  intro composes
  apply Triple.bind (triple_recount_composes composes)
  intro _
  apply Keeps.bind _ fun _ => .done fun s hs => hs
  apply Keeps.bind _ fun _ => steady_lacking.triple_log _
  apply Keeps.mapFault
  exact keeps_executeAll_lacking fun _ => cutoff?_of_mem_reclaimStatements

theorem keeps_maintain_lacking {dryRun : Value} (hlive : dryRun.holds = false) :
    Keeps (Lacking start past cutoff 0 0) (maintain (Trial.connection dialect) dryRun cutoff) := by
  have hstats : Keeps (Lacking start past cutoff 0 0) (statistics (Trial.connection dialect)) :=
    keeps_statistics steady_lacking (keeps_execute_lacking rfl)
  apply triple_maintain_live hlive steady_lacking steady_lacking steady_lacking _ _ hstats hstats
  · apply triple_deleteLoop
    apply keeps_pass_lacking.conseq (fun _ h => h) _ fun _ _ h => h
    intro rows t h
    split
    · exact h
    · exact steady_lacking.log _ h
  · exact fun s l ⟨sts, h⟩ => ⟨sts, h.executed, h.world, h.cutoffs, h.clonesDeleted, h.composesDeleted⟩
  · exact fun s l ⟨sts, h⟩ => ⟨sts, h.executed, h.world, h.cutoffs, h.clonesDeleted, h.composesDeleted⟩

end Rules

section Run

variable (dialect : String) (faults : StepFaults) {plan : Plan} {now cutoff : Moment} {s : Session Trial}

/-- A live run, however it ends, has balanced its accounts. -/
theorem lacking_run (hplan : plan.Deletes now cutoff) :
    let r := run ⟨Trial.connection dialect, openConnection faults⟩ plan now s
    ∃ tally, (∀ summary, r.1.summary? = some summary → summary.tally = tally) ∧
      Lacking s.world (executed s.journal) cutoff 0 0 { r.2 with tally } := by
  have hstart : Lacking s.world (executed s.journal) cutoff 0 0 (starting s) := by
    apply steady_lacking.note rfl
    apply steady_lacking.enter
    exact ⟨[], (List.append_nil _).symm, rfl, by simp [Trial.history], rfl, rfl⟩
  have hbody : Keeps (Lacking s.world (executed s.journal) cutoff 0 0)
      (openConnection faults plan.url (maintain (Trial.connection dialect) plan.dryRun cutoff)) :=
    keeps_openConnection steady_lacking (keeps_maintain_lacking hplan.live)
  rcases run_cases ⟨Trial.connection dialect, openConnection faults⟩ hplan.cutoff hstart hbody with
    ⟨t, h, hr⟩ | ⟨e, t, h, hr⟩ | ⟨cause, t, h, hr⟩
  · rw [hr]
    exact ⟨t.tally, fun _ hs => Option.some.inj hs ▸ rfl, steady_lacking.log _ (steady_lacking.enter _ h)⟩
  · rw [hr]
    exact ⟨t.tally, fun _ hs => Option.some.inj hs ▸ rfl, steady_lacking.log _ (steady_lacking.enter _ h)⟩
  · rw [hr]
    exact ⟨t.tally, fun _ hs => by simp [Ending.summary?] at hs, h⟩

/-- Whatever rows others insert and whatever fails, at any statement of a live run: the store stays
sound, only expired composes and clones of expired composes go, and the totals are the numbers of
rows that the run removed. -/
theorem run_interleaved (hplan : plan.Deletes now cutoff) (hs : s.world.store.Sound)
    (hi : s.world.InsertsAnchored) :
    let r := run ⟨Trial.connection dialect, openConnection faults⟩ plan now s
    ∃ sts, executed r.2.journal = executed s.journal ++ sts ∧ r.2.world = s.world.after sts ∧
      (∀ m ∈ s.world.history sts, m.Proper cutoff) ∧
      ∀ summary, r.1.summary? = some summary →
        summary.tally.clonesDeleted = .whole (s.world.clonesLost sts) ∧
        summary.tally.composesDeleted = .whole (s.world.composesLost sts) := by
  intro r
  obtain ⟨tally, htally, sts, h⟩ := lacking_run dialect faults (s := s) hplan
  refine ⟨sts, h.executed, h.world, fun m hm => ?_, fun summary hsum => ?_⟩
  · exact Turn.proper (Trial.sound_of_mem_history hs hi hm) (h.cutoffs m hm)
  · rw [htally summary hsum]
    exact ⟨by simpa using h.clonesDeleted, by simpa using h.composesDeleted⟩

/-- A store with an expired compose, to which others add a clone between the deletion of clones and
that of composes. -/
def contested : Trial where
  store := ⟨some [⟨some "a", some "1969-12-31"⟩], some [some "a"], true⟩
  upcoming := [.quiet, .quiet, ⟨[.clone (some "a")], none⟩]
  stats := []
  isReadOnly := false

theorem run_contested :
    let r := run ⟨Trial.connection "sqlite", openConnection .none⟩ ⟨"", .bool false, .int 0⟩ (.ofEpochMicros 0)
      (.start contested)
    ∃ sts, executed r.2.journal = sts ∧ r.2.world = contested.after sts ∧
      (∀ m ∈ contested.history sts, m.Proper (.ofEpochMicros 0)) ∧
      ∀ summary, r.1.summary? = some summary →
        summary.tally.clonesDeleted = .whole (contested.clonesLost sts) ∧
        summary.tally.composesDeleted = .whole (contested.composesLost sts) := by
  apply run_interleaved
  · exact ⟨rfl, by decide +kernel⟩
  · decide
  · decide

end Run
end Retention.Run
