import Retention.Proofs.Run.Course

/-! # Trails

The statements that a job executes lead from one world to another. A job can only be held to
something if they are answered plainly: by row counts and counts that are whole numbers, by
statistics that can be observed, or by driver errors. What every statement keeps, the work of a run
keeps; so each job leaves a trail, and the answers on it are plain if those to the whole run are.
-/

namespace Retention.Database.Connection

variable {σ : Type}

def after (conn : Connection σ) (w : σ) : List Statement → σ
  | [] => w
  | st :: rest => conn.after (conn.execute st w).2 rest

@[simp] theorem after_nil (conn : Connection σ) (w : σ) : conn.after w [] = w := rfl

@[simp] theorem after_cons (conn : Connection σ) (w : σ) (st : Statement) (rest : List Statement) :
    conn.after w (st :: rest) = conn.after (conn.execute st w).2 rest := rfl

theorem after_append (conn : Connection σ) (w : σ) (sts sts' : List Statement) :
    conn.after w (sts ++ sts') = conn.after (conn.after w sts) sts' := by
  induction sts generalizing w with
  | nil => rfl
  | cons st rest ih => exact ih _

end Retention.Database.Connection

namespace Retention.Run

open Calendar Database Job

variable {σ α β : Type} {conn : Connection σ}

section Plain

/-- What a statement is answered in good order, if not always as one would wish. -/
def IsPlain (st : Statement) : Except Fault Reply → Prop
  | .error f => IsDriverFault f
  | .ok reply =>
    match st with
    | .stats => Observed (.ok reply)
    | .deleteClones _ | .deleteComposes _ => ∃ n, reply.rowCount = .int n
    | .countClones _ | .countComposes _ =>
      (∃ n, reply.scalar = .ok (.int n)) ∨ ∃ f, reply.scalar = .error f ∧ IsDriverFault f
    | .vacuumAnalyze | .vacuum | .analyze => True

def PlainTo (conn : Connection σ) (w : σ) : List Statement → Prop
  | [] => True
  | st :: rest => IsPlain st (conn.execute st w).1 ∧ PlainTo conn (conn.execute st w).2 rest

theorem plainTo_append {w : σ} {sts sts' : List Statement} :
    PlainTo conn w (sts ++ sts') ↔ PlainTo conn w sts ∧ PlainTo conn (conn.after w sts) sts' := by
  induction sts generalizing w with
  | nil => simp [PlainTo]
  | cons st rest ih => simp [PlainTo, ih, and_assoc]

end Plain

section Enduring

/-- Every statement keeps the assertion, and it looks neither at stages nor at tallies nor at events
that execute nothing. -/
structure Enduring (conn : Connection σ) (P : Session σ → Prop) : Prop extends Steady P where
  tally : ∀ {s} tally, P s → P { s with tally }
  execute : ∀ st, Keeps P (Job.execute conn st)

variable {P : Session σ → Prop} (cutoff : Moment)

theorem Job.Keeps.apply {x : Job σ α} {s : Session σ} (hx : Keeps P x) (hs : P s) : P (x s).2 :=
  (hx s hs).snd

namespace Enduring

theorem keeps_recount (h : Enduring conn P) (f : Tally → Except Mishap Tally) : Keeps P (Job.recount f) :=
  Triple.recount (fun _ tally hs _ => h.tally tally hs) fun _ _ hs _ => hs

theorem keeps_count (h : Enduring conn P) (f : Tally → Tally) : Keeps P (Job.count f) :=
  Triple.change fun _ hs => h.tally _ hs

theorem keeps_deleteExpired (h : Enduring conn P) (table : Table) : Keeps P (deleteExpired conn table cutoff) :=
  .bind (.mapFault (h.execute _)) fun _ => .bind (.ofExcept _) fun _ => .bind (h.triple_log _) fun _ =>
    .done fun _ hs => hs

theorem keeps_executeAll (h : Enduring conn P) (sts : List Statement) : Keeps P (executeAll conn sts) :=
  triple_executeAll (Q := fun _ => P) fun st _ _ => h.execute st

theorem keeps_reclaim (h : Enduring conn P) : Keeps P (reclaim conn) :=
  .bind (.mapFault (h.keeps_executeAll _)) fun _ => h.triple_log _

theorem keeps_pass (h : Enduring conn P) : Keeps P (pass conn cutoff) := by
  apply Keeps.bind (h.keeps_count _)
  intro _
  apply Keeps.bind (h.keeps_deleteExpired _ _)
  intro clones
  apply Keeps.bind (h.keeps_recount _)
  intro _
  apply Keeps.bind (h.keeps_deleteExpired _ _)
  intro composes
  apply Keeps.bind (h.keeps_recount _)
  intro _
  exact .bind h.keeps_reclaim fun _ => .done fun _ hs => hs

theorem keeps_deleteLoop (h : Enduring conn P) : Keeps P (deleteLoop conn cutoff) := by
  apply triple_deleteLoop
  apply (h.keeps_pass cutoff).conseq (fun _ hs => hs) _ fun _ _ hs => hs
  intro rows t hs
  split
  · exact hs
  · exact h.log _ hs

theorem keeps_countExpired (h : Enduring conn P) (table : Table) : Keeps P (countExpired conn table cutoff) := by
  apply Keeps.bind _ fun _ => .ofExcept _
  apply Keeps.mapFault
  apply Keeps.bind (h.execute _)
  intro reply
  unfold scalar
  split
  · exact .done fun _ hs => hs
  · exact .fail fun _ hs => hs

theorem keeps_expectedCount (h : Enduring conn P) (table : Table) : Keeps P (expectedCount conn table cutoff) := by
  intro s hs
  have hs := (h.keeps_countExpired cutoff table).apply hs
  unfold expectedCount
  split <;> rename_i hr <;> rw [hr] at hs
  · exact hs
  · exact h.log _ hs
  · exact hs

theorem keeps_dryRunReport (h : Enduring conn P) : Keeps P (dryRunReport conn cutoff) :=
  .bind (h.keeps_expectedCount _ _) fun _ => .bind (h.keeps_count _) fun _ =>
    .bind (h.keeps_expectedCount _ _) fun _ => .bind (h.keeps_count _) fun _ => h.triple_log _

theorem keeps_statistics (h : Enduring conn P) : Keeps P (statistics conn) :=
  Run.keeps_statistics h.toSteady (h.execute _)

theorem keeps_maintain (h : Enduring conn P) (dryRun : Value) : Keeps P (maintain conn dryRun cutoff) := by
  have hafter : Keeps P (do
      Job.enter .statsAfter
      let after ← statistics conn
      Job.count fun t => { t with statsAfter := after }) :=
    .bind (h.triple_enter _) fun _ => .bind h.keeps_statistics fun _ => h.keeps_count _
  apply Keeps.bind (h.triple_enter _)
  intro _
  apply Keeps.bind h.keeps_statistics
  intro before
  apply Keeps.bind (h.keeps_count _)
  intro _
  split
  · exact .bind (h.triple_enter _) fun _ => .bind (h.keeps_dryRunReport _) fun _ => hafter
  · exact .bind (h.triple_enter _) fun _ => .bind (h.keeps_deleteLoop _) fun _ => hafter

end Enduring
end Enduring

section Trail

/-- The later session has come from the earlier one by the statements that it has executed since. -/
def Session.Leads (conn : Connection σ) (s t : Session σ) : Prop :=
  ∃ es, t.journal = s.journal ++ es ∧ t.world = conn.after s.world (executed es)

/-- All statements that the later session has executed since the earlier one were answered plainly. -/
def Session.Plain (conn : Connection σ) (s t : Session σ) : Prop :=
  ∀ es, t.journal = s.journal ++ es → PlainTo conn s.world (executed es)

variable {s t u : Session σ}

theorem Session.Leads.refl (s : Session σ) : s.Leads conn s :=
  ⟨[], (List.append_nil _).symm, rfl⟩

theorem Session.Leads.trans (hst : s.Leads conn t) (htu : t.Leads conn u) : s.Leads conn u := by
  obtain ⟨es, hj, hw⟩ := hst
  obtain ⟨es', hj', hw'⟩ := htu
  refine ⟨es ++ es', by rw [hj', hj, List.append_assoc], ?_⟩
  rw [executed_append, Connection.after_append, ← hw, hw']

theorem executed_concat {es : List Event} {e : Event} (he : e.statement? = none) :
    executed (es ++ [e]) = executed es := by
  simp [executed, he]

theorem enduring_leads : Enduring conn (Session.Leads conn s) where
  note := by
    rintro t e he ⟨es, hj, hw⟩
    refine ⟨es ++ [e], ?_, ?_⟩
    · rw [Session.note, hj, List.append_assoc]
    · rwa [executed_concat he]
  stage := by
    rintro t _ ⟨es, hj, hw⟩
    exact ⟨es, hj, hw⟩
  tally := by
    rintro t _ ⟨es, hj, hw⟩
    exact ⟨es, hj, hw⟩
  execute := by
    intro st
    have hstep : ∀ {t : Session σ} {w r}, s.Leads conn t → conn.execute st t.world = (r, w) →
        s.Leads conn { t.note (.executed st) with world := w } := by
      rintro t w r ⟨es, hj, hw⟩ hr
      refine ⟨es ++ [.executed st], ?_, ?_⟩
      · rw [Session.note, hj, List.append_assoc]
      · rw [executed_append, Connection.after_append, ← hw]
        exact (congrArg Prod.snd hr).symm
    apply Triple.execute
    · rintro t r w ht hr
      obtain ⟨es, hj, hw⟩ := hstep ht hr
      refine ⟨es ++ [.answered], ?_, ?_⟩
      · rw [Session.note, hj, List.append_assoc]
      · rwa [executed_concat rfl]
    · exact fun t e w ht hr => hstep ht hr

theorem Session.Plain.split (h : s.Plain conn u) (hst : s.Leads conn t) (htu : t.Leads conn u) :
    s.Plain conn t ∧ t.Plain conn u := by
  obtain ⟨es, hj, hw⟩ := hst
  obtain ⟨es', hj', -⟩ := htu
  have hplain : PlainTo conn s.world (executed es ++ executed es') := by
    rw [← executed_append]
    exact h _ (by rw [hj', hj, List.append_assoc])
  obtain ⟨hplain, hplain'⟩ := plainTo_append.mp hplain
  constructor
  · intro fs hf
    rwa [← List.append_cancel_left (hj.symm.trans hf)]
  · intro fs hf
    rwa [← List.append_cancel_left (hj'.symm.trans hf), hw]

theorem Session.Plain.of_executed {w : σ} {sts : List Statement} (ht : executed t.journal = sts)
    (h : PlainTo conn w sts) : (Session.start w).Plain conn t := by
  intro es hes
  rwa [← show t.journal = es from hes, ht]

end Trail
end Retention.Run
