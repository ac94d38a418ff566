import Retention.Proofs.Run.Deeds

/-! # Passes

A pass deletes clones, deletes composes and reclaims space, and is over at the first statement that
fails. The loop goes through passes as long as they are complete and delete composes; what it
executes, logs and counts is that of its passes, one after the other.
-/

namespace Retention.Database.Connection

variable {σ : Type}

def Counts (conn : Connection σ) (w : σ) (st : Statement) (n : Int) : Prop :=
  ∃ reply, (conn.execute st w).1 = .ok reply ∧ reply.rowCount = .int n

def Fails (conn : Connection σ) (w : σ) (st : Statement) (e : DriverError) : Prop :=
  (conn.execute st w).1 = .error (.outside (.driver e))

def Succeeds (conn : Connection σ) (w : σ) : List Statement → Prop
  | [] => True
  | st :: rest => (∃ reply, (conn.execute st w).1 = .ok reply) ∧ conn.Succeeds (conn.execute st w).2 rest

end Retention.Database.Connection

namespace Retention.Run

open Calendar Database Job

variable {σ α β : Type} {conn : Connection σ} {cutoff : Moment}

/-- A pass by its end: the deletion of clones failed, or that of composes, or a statement behind
others that reclaim space, or none. Rows are given as they were reported. -/
inductive Pass where
  | clonesFailed (e : DriverError)
  | composesFailed (clones : Int) (e : DriverError)
  | reclaimFailed (clones composes : Int) (before : List Statement) (st : Statement) (e : DriverError)
  | complete (clones composes : Int)

/-- The statements that reclaim space. One dialect has no combined form of them. -/
def reclaiming (dialect : String) : List Statement :=
  if dialect = "sqlite" then [.vacuum, .analyze] else [.vacuumAnalyze]

def deletionError (table : String) (e : DriverError) : JobError :=
  ⟨.deletion (.text table) (.int 0), "Error deleting " ++ table ++ ": " ++ e.message, some (.driver e)⟩

def reclaimError (e : DriverError) : JobError :=
  ⟨.reclaim, "Error running VACUUM ANALYZE: " ++ e.message, some (.driver e)⟩

def rowsRecord (table : String) (n : Nat) : Log.Record :=
  ⟨.info, "retention.rows_deleted", [("table", .text table), ("rows", .int n)]⟩

def reclaimedRecord : Log.Record :=
  ⟨.info, "retention.reclaimed", []⟩

@[simp] theorem isNamed_rowsRecord (name table : String) (n : Nat) :
    (rowsRecord table n).isNamed name = ("retention.rows_deleted" == name) := rfl

@[simp] theorem isNamed_reclaimedRecord (name : String) :
    reclaimedRecord.isNamed name = ("retention.reclaimed" == name) := rfl

namespace Pass

def statements (dialect : String) (cutoff : Moment) : Pass → List Statement
  | .clonesFailed _ => [.deleteClones cutoff]
  | .composesFailed _ _ => [.deleteClones cutoff, .deleteComposes cutoff]
  | .reclaimFailed _ _ before st _ => [.deleteClones cutoff, .deleteComposes cutoff] ++ (before ++ [st])
  | .complete _ _ => [.deleteClones cutoff, .deleteComposes cutoff] ++ reclaiming dialect

/-- Clones that the pass deleted; an unknown number counts as none. -/
def clones : Pass → Nat
  | .clonesFailed _ => 0
  | .composesFailed n _ | .reclaimFailed n _ _ _ _ | .complete n _ => n.toNat

def composes : Pass → Nat
  | .clonesFailed _ | .composesFailed _ _ => 0
  | .reclaimFailed _ n _ _ _ | .complete _ n => n.toNat

def error? : Pass → Option JobError
  | .clonesFailed e => some (deletionError "clones" e)
  | .composesFailed _ e => some (deletionError "composes" e)
  | .reclaimFailed _ _ _ _ e => some (reclaimError e)
  | .complete _ _ => none

def GoesOn : Pass → Prop
  | .complete _ n => 0 < n
  | _ => False

def records : Pass → List Log.Record
  | .clonesFailed _ => []
  | .composesFailed n _ => [rowsRecord "clones" n.toNat]
  | .reclaimFailed n m _ _ _ => [rowsRecord "clones" n.toNat, rowsRecord "composes" m.toNat]
  | .complete n m => [rowsRecord "clones" n.toNat, rowsRecord "composes" m.toNat, reclaimedRecord]

def outcome (p : Pass) : Except Fault (Rows × Rows) :=
  match p.error? with
  | some e => .error (.job e)
  | none => .ok (.number p.clones, .number p.composes)

/-- From the world on, the connection gives the answers of the pass. -/
def Fits (conn : Connection σ) (cutoff : Moment) (w : σ) : Pass → Prop
  | .clonesFailed e => conn.Fails w (.deleteClones cutoff) e
  | .composesFailed n e =>
    conn.Counts w (.deleteClones cutoff) n ∧
      conn.Fails (conn.after w [.deleteClones cutoff]) (.deleteComposes cutoff) e
  | .reclaimFailed n m before st e =>
    conn.Counts w (.deleteClones cutoff) n ∧
      conn.Counts (conn.after w [.deleteClones cutoff]) (.deleteComposes cutoff) m ∧
      (∃ behind, reclaiming conn.dialect = before ++ st :: behind) ∧
      conn.Succeeds (conn.after w [.deleteClones cutoff, .deleteComposes cutoff]) before ∧
      conn.Fails (conn.after w ([.deleteClones cutoff, .deleteComposes cutoff] ++ before)) st e
  | .complete n m =>
    conn.Counts w (.deleteClones cutoff) n ∧
      conn.Counts (conn.after w [.deleteClones cutoff]) (.deleteComposes cutoff) m ∧
      conn.Succeeds (conn.after w [.deleteClones cutoff, .deleteComposes cutoff]) (reclaiming conn.dialect)

end Pass

def Sums.plus (k : Sums) (p : Pass) : Sums :=
  ⟨k.iterations + 1, k.clones + p.clones, k.composes + p.composes⟩

section Statements

variable {s u : Session σ} {st : Statement} {sts : List Statement} {stage : Stage} {k : Sums}

theorem not_isReport_reclaimedRecord : ¬ IsReport reclaimedRecord :=
  Bool.false_ne_true

theorem not_isReport_rowsRecord (table : String) (n : Nat) : ¬ IsReport (rowsRecord table n) :=
  Bool.false_ne_true

theorem deleteExpired_does (table : Table) (hs : s.IsAt stage k)
    (h : s.Plain conn (deleteExpired conn table cutoff s).2) :
    (∃ e, conn.Fails s.world (table.deletion cutoff) e ∧
      Does conn (deleteExpired conn table cutoff) s [table.deletion cutoff] []
        (.error (.job (deletionError table.name e))) stage k) ∨
    ∃ n, conn.Counts s.world (table.deletion cutoff) n ∧
      Does conn (deleteExpired conn table cutoff) s [table.deletion cutoff] [rowsRecord table.name n.toNat]
        (.ok (.number n.toNat)) stage k := by
  have hleads : (Job.execute conn (table.deletion cutoff) s).2.Leads conn (deleteExpired conn table cutoff s).2 := by
    apply leads_bind ((Job.execute conn (table.deletion cutoff)).mapFault (wrapDeletion table))
    exact fun _ _ => .bind (.ofExcept _) fun _ => .bind (enduring_leads.triple_log _) fun _ => .done fun _ ht => ht
  have hplain := h.answer hleads
  cases hr : (conn.execute (table.deletion cutoff) s.world).1 with
  | error f =>
    rw [hr] at hplain
    obtain ⟨e, rfl⟩ := hplain
    exact .inl ⟨e, hr, ((Does.execute_error hs hr).mapFault (wrapDeletion table)).bind_error⟩
  | ok reply =>
    rw [hr] at hplain
    obtain ⟨n, hn⟩ : ∃ n, reply.rowCount = .int n := by cases table <;> exact hplain
    have ha : reply.affected = .ok (.number n.toNat) := by rw [Reply.affected, hn]
    refine .inr ⟨n, ⟨reply, hr, hn⟩, ?_⟩
    have hx := (Does.execute_ok hs hr).mapFault (wrapDeletion table)
    have hrows : Does conn (Job.ofExcept reply.affected) (Job.execute conn (table.deletion cutoff) s).2 [] []
        (.ok (.number n.toNat)) stage k := by
      rw [ha]
      exact .done hx.isAt _
    have hlog : Does conn (Job.log (rowsRecord table.name n.toNat)) _ _ _ _ _ _ :=
      .log hrows.isAt (not_isReport_rowsRecord table.name n.toNat)
    exact hx.bind (hrows.bind (hlog.bind (.done hlog.isAt _)))

theorem executeAll_does (sts : List Statement) (hs : s.IsAt stage k)
    (h : s.Plain conn (executeAll conn sts s).2) :
    (∃ before st behind e, sts = before ++ st :: behind ∧ conn.Succeeds s.world before ∧
      conn.Fails (conn.after s.world before) st e ∧
      Does conn (executeAll conn sts) s (before ++ [st]) [] (.error (.outside (.driver e))) stage k) ∨
    conn.Succeeds s.world sts ∧ Does conn (executeAll conn sts) s sts [] (.ok ()) stage k := by
  induction sts generalizing s with
  | nil => exact .inr ⟨trivial, .done hs ()⟩
  | cons st rest ih =>
    have hrest : ∀ (_ : Reply) t, Keeps (Session.Leads conn t) (executeAll conn rest) := fun _ _ =>
      enduring_leads.keeps_executeAll rest
    have hplain := h.answer (leads_bind _ hrest)
    cases hr : (conn.execute st s.world).1 with
    | error f =>
      rw [hr] at hplain
      obtain ⟨e, rfl⟩ := hplain
      exact .inl ⟨[], st, rest, e, rfl, trivial, hr, (Does.execute_error hs hr).bind_error⟩
    | ok reply =>
      have hx := Does.execute_ok hs hr
      have hworld : (Job.execute conn st s).2.world = (conn.execute st s.world).2 := hx.world
      rcases ih hx.isAt (h.rest hx hrest) with ⟨before, st', behind, e, rfl, hsuc, hfail, hdoes⟩ | ⟨hsuc, hdoes⟩
      · rw [hworld] at hsuc hfail
        exact .inl ⟨st :: before, st', behind, e, rfl, ⟨⟨reply, hr⟩, hsuc⟩, hfail, hx.bind hdoes⟩
      · rw [hworld] at hsuc
        exact .inr ⟨⟨⟨reply, hr⟩, hsuc⟩, hx.bind hdoes⟩

theorem reclaim_does (hs : s.IsAt stage k) (h : s.Plain conn (reclaim conn s).2) :
    (∃ before st behind e, reclaiming conn.dialect = before ++ st :: behind ∧
      conn.Succeeds s.world before ∧ conn.Fails (conn.after s.world before) st e ∧
      Does conn (reclaim conn) s (before ++ [st]) [] (.error (.job (reclaimError e))) stage k) ∨
    conn.Succeeds s.world (reclaiming conn.dialect) ∧
      Does conn (reclaim conn) s (reclaiming conn.dialect) [reclaimedRecord] (.ok ()) stage k := by
  have hplain := h.first (.mapFault (enduring_leads.keeps_executeAll _)) fun _ _ => enduring_leads.triple_log _
  rcases executeAll_does (reclaiming conn.dialect) hs hplain with
    ⟨before, st, behind, e, hsts, hsuc, hfail, hdoes⟩ | ⟨hsuc, hdoes⟩
  · exact .inl ⟨before, st, behind, e, hsts, hsuc, hfail, (hdoes.mapFault wrapReclaim).bind_error⟩
  · have hx := hdoes.mapFault wrapReclaim
    exact .inr ⟨hsuc, hx.bind_quiet (.log hx.isAt not_isReport_reclaimedRecord)⟩

end Statements

section Pass

variable {s : Session σ} {stage : Stage} {k : Sums}

def afterComposes (conn : Connection σ) (clones composes : Rows) : Job σ (Rows × Rows) := do
  Job.recount (Tally.addComposes composes)
  reclaim conn
  return (clones, composes)

/-- The part of a pass behind the deletion of clones, of which that behind the deletion of composes is a part. -/
def afterClones (conn : Connection σ) (cutoff : Moment) (clones : Rows) : Job σ (Rows × Rows) := do
  Job.recount (Tally.addClones clones)
  let composes ← deleteExpired conn .composes cutoff
  afterComposes conn clones composes

theorem pass_eq (conn : Connection σ) (cutoff : Moment) :
    pass conn cutoff = (do
      Job.count fun t => { t with iterations := t.iterations + 1 }
      let clones ← deleteExpired conn .clones cutoff
      afterClones conn cutoff clones) :=
  rfl

theorem keeps_afterComposes {P : Session σ → Prop} (h : Enduring conn P) (clones composes : Rows) :
    Keeps P (afterComposes conn clones composes) :=
  .bind (h.keeps_recount _) fun _ => .bind h.keeps_reclaim fun _ => .done fun _ hs => hs

theorem keeps_afterClones {P : Session σ → Prop} (h : Enduring conn P) (clones : Rows) :
    Keeps P (afterClones conn cutoff clones) :=
  .bind (h.keeps_recount _) fun _ => .bind (h.keeps_deleteExpired _ _) fun _ => keeps_afterComposes h _ _

theorem Tally.HasSums.addClones {t : Tally} (h : t.HasSums k) (n : Nat) :
    ∃ t', Tally.addClones (.number n) t = .ok t' ∧ t'.HasSums { k with clones := k.clones + n } :=
  ⟨_, Tally.addClones_whole h.clones n, h.iterations, rfl, h.composes⟩

theorem Tally.HasSums.addComposes {t : Tally} (h : t.HasSums k) (n : Nat) :
    ∃ t', Tally.addComposes (.number n) t = .ok t' ∧ t'.HasSums { k with composes := k.composes + n } :=
  ⟨_, Tally.addComposes_whole h.composes n, h.iterations, h.clones, rfl⟩

theorem afterComposes_does (clones : Rows) (m : Nat) (hs : s.IsAt stage k)
    (h : s.Plain conn (afterComposes conn clones (.number m) s).2) :
    let k' : Sums := { k with composes := k.composes + m }
    (∃ before st behind e, reclaiming conn.dialect = before ++ st :: behind ∧
      conn.Succeeds s.world before ∧ conn.Fails (conn.after s.world before) st e ∧
      Does conn (afterComposes conn clones (.number m)) s (before ++ [st]) [] (.error (.job (reclaimError e))) stage
        k') ∨
    conn.Succeeds s.world (reclaiming conn.dialect) ∧
      Does conn (afterComposes conn clones (.number m)) s (reclaiming conn.dialect) [reclaimedRecord]
        (.ok (clones, .number m)) stage k' := by
  intro k'
  obtain ⟨t, ht, hk⟩ := hs.sums.addComposes m
  have hx : Does conn (Job.recount (Tally.addComposes (.number m))) s [] [] (.ok ()) stage k' := .recount hs ht hk
  have hworld := hx.world
  have hrest := h.rest hx fun _ _ => .bind enduring_leads.keeps_reclaim fun _ => .done fun _ hu => hu
  have hplain := hrest.first enduring_leads.keeps_reclaim fun _ _ => .done fun _ hu => hu
  rcases reclaim_does hx.isAt hplain with ⟨before, st, behind, e, hsts, hsuc, hfail, hdoes⟩ | ⟨hsuc, hdoes⟩
  · rw [hworld] at hsuc hfail
    exact .inl ⟨before, st, behind, e, hsts, hsuc, hfail, hx.bind hdoes.bind_error⟩
  · rw [hworld] at hsuc
    exact .inr ⟨hsuc, hx.bind (hdoes.bind_quiet (.done hdoes.isAt (clones, Rows.number m)))⟩

theorem afterClones_does {w : σ} {n : Int} (hn : conn.Counts w (.deleteClones cutoff) n)
    (hw : s.world = conn.after w [.deleteClones cutoff]) (hs : s.IsAt stage k)
    (h : s.Plain conn (afterClones conn cutoff (.number n.toNat) s).2) :
    ∃ p sts recs, Pass.Fits conn cutoff w p ∧ p.statements conn.dialect cutoff = .deleteClones cutoff :: sts ∧
      p.records = rowsRecord "clones" n.toNat :: recs ∧
      Does conn (afterClones conn cutoff (.number n.toNat)) s sts recs p.outcome stage
        ⟨k.iterations, k.clones + p.clones, k.composes + p.composes⟩ := by
  obtain ⟨t, ht, hk⟩ := hs.sums.addClones n.toNat
  have hx : Does conn (Job.recount (Tally.addClones (.number n.toNat))) _ _ _ _ _ _ := .recount hs ht hk
  have hworld := hx.world
  have hcomposes : ∀ composes t, Keeps (Session.Leads conn t) (afterComposes conn (.number n.toNat) composes) :=
    fun composes _ => keeps_afterComposes enduring_leads _ composes
  have hrest := h.rest hx fun _ _ => .bind (enduring_leads.keeps_deleteExpired _ _) fun _ => hcomposes _ _
  rcases deleteExpired_does .composes hx.isAt (hrest.first (enduring_leads.keeps_deleteExpired _ _) hcomposes) with
    ⟨e, hfail, hdoes⟩ | ⟨m, hm, hdoes⟩
  · rw [hworld, hw] at hfail
    exact ⟨.composesFailed n e, _, _, ⟨hn, hfail⟩, rfl, rfl, hx.bind hdoes.bind_error⟩
  · have hworld' := hdoes.world
    rw [hworld, hw] at hm hworld'
    rcases afterComposes_does _ _ hdoes.isAt (hrest.rest hdoes hcomposes) with
      ⟨before, st, behind, e, hsts, hsuc, hfail, hlast⟩ | ⟨hsuc, hlast⟩
    · rw [hworld'] at hsuc hfail
      exact ⟨.reclaimFailed n m before st e, _, _, ⟨hn, hm, ⟨behind, hsts⟩, hsuc, hfail⟩, rfl, rfl,
        hx.bind (hdoes.bind hlast)⟩
    · rw [hworld'] at hsuc
      exact ⟨.complete n m, _, _, ⟨hn, hm, hsuc⟩, rfl, rfl, hx.bind (hdoes.bind hlast)⟩

/-- A job that is a pass does what one of the passes does that fit the connection. -/
theorem pass_does (hs : s.IsAt stage k) (h : s.Plain conn (pass conn cutoff s).2) :
    ∃ p, Pass.Fits conn cutoff s.world p ∧
      Does conn (pass conn cutoff) s (p.statements conn.dialect cutoff) p.records p.outcome stage (k.plus p) := by
  rw [pass_eq] at h ⊢
  have hclones : ∀ clones t, Keeps (Session.Leads conn t) (afterClones conn cutoff clones) := fun clones _ =>
    keeps_afterClones enduring_leads clones
  have hx : Does conn (Job.count fun t => { t with iterations := t.iterations + 1 }) s [] [] (.ok ()) stage
      { k with iterations := k.iterations + 1 } :=
    .count hs _ ⟨congrArg (· + 1) hs.sums.iterations, hs.sums.clones, hs.sums.composes⟩
  have hrest := h.rest hx fun _ _ => .bind (enduring_leads.keeps_deleteExpired _ _) fun _ => hclones _ _
  rcases deleteExpired_does .clones hx.isAt (hrest.first (enduring_leads.keeps_deleteExpired _ _) hclones) with
    ⟨e, hfail, hdoes⟩ | ⟨n, hn, hdoes⟩
  · exact ⟨.clonesFailed e, hfail, hx.bind hdoes.bind_error⟩
  · obtain ⟨p, sts, recs, hfits, hsts, hrecs, hlast⟩ :=
      afterClones_does hn hdoes.world hdoes.isAt (hrest.rest hdoes hclones)
    refine ⟨p, hfits, ?_⟩
    rw [hsts, hrecs]
    exact hx.bind (hdoes.bind hlast)

end Pass

section Loop

/-- The passes that the connection lets happen from the world on, up to the first behind which no
other follows. -/
inductive Passes (conn : Connection σ) (cutoff : Moment) : σ → List Pass → Prop
  | last {w p} (fits : Pass.Fits conn cutoff w p) (stops : ¬ p.GoesOn) : Passes conn cutoff w [p]
  | next {w p ps} (fits : Pass.Fits conn cutoff w p) (goesOn : p.GoesOn)
      (rest : Passes conn cutoff (conn.after w (p.statements conn.dialect cutoff)) ps) : Passes conn cutoff w (p :: ps)

def Pass.completion (iteration : Nat) (p : Pass) : Log.Record :=
  ⟨.info, "retention.pass_complete", [("iteration", .int iteration), ("composes_deleted", .int p.composes),
    ("clones_deleted", .int p.clones)]⟩

@[simp] theorem Pass.isNamed_completion (name : String) (n : Nat) (p : Pass) :
    (p.completion n).isNamed name = ("retention.pass_complete" == name) := rfl

/-- The records of passes; a pass that goes on is marked as complete, under its number. -/
def passesRecords (iterations : Nat) : List Pass → List Log.Record
  | [] => []
  | [p] => p.records
  | p :: q :: ps => p.records ++ p.completion (iterations + 1) :: passesRecords (iterations + 1) (q :: ps)

def passesOutcome (ps : List Pass) : Except Fault Unit :=
  match ps.findSome? Pass.error? with
  | some e => .error (.job e)
  | none => .ok ()

variable {s : Session σ} {sts : List Statement} {recs : List Log.Record} {stage : Stage} {k : Sums} {p : Pass}
  {ps : List Pass} {w : σ}

theorem Passes.ne_nil (h : Passes conn cutoff w ps) : ps ≠ [] := by
  cases h <;> simp

theorem Pass.GoesOn.error?_eq_none (h : p.GoesOn) : p.error? = none := by
  cases p with
  | complete n m => rfl
  | _ => exact h.elim

theorem Pass.goesOn_iff (h : p.error? = none) : p.GoesOn ↔ 0 < p.composes := by
  cases p with
  | complete n m =>
    simp only [GoesOn, composes]
    omega
  | _ => simp [error?] at h

theorem not_isReport_completion (n : Nat) (p : Pass) : ¬ IsReport (p.completion n) :=
  Bool.false_ne_true

theorem Pass.outcome_of_error?_eq_none (h : p.error? = none) :
    p.outcome = .ok (.number p.clones, .number p.composes) := by
  rw [outcome, h]

def markPass (rows : Rows × Rows) : Job σ Unit :=
  Job.change fun s => s.log (passRecord s.tally.iterations rows.1 rows.2)

def afterPass (conn : Connection σ) (cutoff : Moment) (rows : Rows × Rows) : Job σ Unit :=
  if rows.2.isZero = true then Job.done ()
  else do
    markPass rows
    deleteLoop conn cutoff

theorem deleteLoop_eq_bind (conn : Connection σ) (cutoff : Moment) :
    deleteLoop conn cutoff = pass conn cutoff >>= afterPass conn cutoff := by
  funext s
  rw [deleteLoop]
  split
  · rename_i e t hp
    rw [bind_of_error hp]
  · rename_i clones composes t hp
    rw [bind_of_ok hp, afterPass]
    split <;> rfl

theorem keeps_afterPass {P : Session σ → Prop} (h : Enduring conn P) (rows : Rows × Rows) :
    Keeps P (afterPass conn cutoff rows) := by
  unfold afterPass
  split
  · exact .done fun _ hs => hs
  · exact .bind (.change fun _ hs => h.log _ hs) fun _ => h.keeps_deleteLoop cutoff

theorem does_of_last (hp : Does conn (pass conn cutoff) s sts recs p.outcome stage k) (hstop : ¬ p.GoesOn) :
    Does conn (deleteLoop conn cutoff) s sts recs (passesOutcome [p]) stage k := by
  rw [deleteLoop_eq_bind]
  cases he : p.error? with
  | some e =>
    rw [Pass.outcome, he] at hp
    rw [passesOutcome, List.findSome?_singleton, he]
    exact hp.bind_error
  | none =>
    rw [Pass.outcome_of_error?_eq_none he] at hp
    have hzero : p.composes = 0 := by simpa [Pass.goesOn_iff he] using hstop
    have hafter : Does conn (afterPass conn cutoff (.number p.clones, .number p.composes)) (pass conn cutoff s).2 [] []
        (.ok ()) stage k := by
      rw [afterPass, if_pos (by simp [Rows.isZero, hzero])]
      exact .done hp.isAt ()
    have hdone := hp.bind_quiet hafter
    rw [List.append_nil] at hdone
    rwa [passesOutcome, List.findSome?_singleton, he]

theorem markPass_does (conn : Connection σ) (p : Pass) (hs : s.IsAt stage k) :
    Does conn (markPass (.number p.clones, .number p.composes)) s [] [p.completion k.iterations] (.ok ()) stage k := by
  apply (Does.log hs (not_isReport_completion k.iterations p)).congr
  rw [Pass.completion, ← hs.sums.iterations]
  rfl

theorem afterPass_of_goesOn (h : p.GoesOn) :
    afterPass conn cutoff (.number p.clones, .number p.composes) = (do
      markPass (.number p.clones, .number p.composes)
      deleteLoop conn cutoff) := by
  have hpos := (Pass.goesOn_iff h.error?_eq_none).mp h
  rw [afterPass, if_neg]
  simp only [Rows.isZero, beq_iff_eq]
  omega

theorem does_of_next {sts' : List Statement} {recs' : List Log.Record} {r : Except Fault Unit} {stage' : Stage}
    {k' : Sums} (hp : Does conn (pass conn cutoff) s sts recs p.outcome stage k) (hgo : p.GoesOn)
    (hrest : Does conn (deleteLoop conn cutoff)
      (markPass (.number p.clones, .number p.composes) (pass conn cutoff s).2).2 sts' recs' r stage' k') :
    Does conn (deleteLoop conn cutoff) s (sts ++ sts') (recs ++ p.completion k.iterations :: recs') r stage' k' := by
  rw [Pass.outcome_of_error?_eq_none hgo.error?_eq_none] at hp
  have hafter : Does conn (afterPass conn cutoff (.number p.clones, .number p.composes)) (pass conn cutoff s).2 sts'
      (p.completion k.iterations :: recs') r stage' k' := by
    rw [afterPass_of_goesOn hgo]
    exact (markPass_does conn p hp.isAt).bind hrest
  rw [deleteLoop_eq_bind]
  exact hp.bind hafter

/-- Passes that go on use up the budget of the connection. -/
theorem budget_lt_of_goesOn (hp : Does conn (pass conn cutoff) s sts recs p.outcome stage k) (hgo : p.GoesOn) :
    conn.budget (pass conn cutoff s).2.world < conn.budget s.world := by
  rw [Pass.outcome_of_error?_eq_none hgo.error?_eq_none] at hp
  apply budget_pass_lt (Prod.ext hp.result rfl)
  have hpos := (Pass.goesOn_iff hgo.error?_eq_none).mp hgo
  simp only [Rows.isZero, beq_eq_false_iff_ne]
  omega

theorem passesRecords_cons (n : Nat) (p : Pass) (h : ps ≠ []) :
    passesRecords n (p :: ps) = p.records ++ p.completion (n + 1) :: passesRecords (n + 1) ps := by
  obtain ⟨q, ps, rfl⟩ := List.exists_cons_of_ne_nil h
  rfl

theorem passesOutcome_cons (h : p.GoesOn) (ps : List Pass) : passesOutcome (p :: ps) = passesOutcome ps := by
  rw [passesOutcome, passesOutcome, List.findSome?_cons_of_isNone]
  simp [h.error?_eq_none]

def passNames : List String :=
  ["retention.rows_deleted", "retention.reclaimed", "retention.pass_complete"]

theorem named_passesRecords {name : String} (h : name ∉ passNames) (n : Nat) (ps : List Pass) :
    named name (passesRecords n ps) = [] := by
  have hne : ∀ name' ∈ passNames, (name' == name) = false := fun name' hn => by
    rw [beq_eq_false_iff_ne]
    rintro rfl
    exact h hn
  have hrecords : ∀ p : Pass, named name p.records = [] := by
    simp only [passNames, List.forall_mem_cons] at hne
    intro p
    cases p <;> simp [named, Pass.records, hne]
  fun_induction passesRecords n ps with
  | case1 n => rfl
  | case2 n p => exact hrecords p
  | case3 n p q ps ih =>
    have hcompletion : named name [p.completion (n + 1)] = [] := by
      simp [named, hne "retention.pass_complete" (by decide)]
    rw [List.append_cons, named_append, named_append, hrecords, hcompletion, ih]
    rfl

/-- Each pass fits the world that the passes before it have left, and another follows if it goes on. -/
theorem Passes.getElem? (h : Passes conn cutoff w ps) {i : Nat} (hp : ps[i]? = some p) :
    Pass.Fits conn cutoff (conn.after w ((ps.take i).flatMap (Pass.statements conn.dialect cutoff))) p ∧
      (i + 1 < ps.length ↔ p.GoesOn) := by
  induction h generalizing i with
  | last fits stops =>
    cases i with
    | zero =>
      obtain rfl := Option.some.inj hp
      exact ⟨fits, by simpa using stops⟩
    | succ i => simp at hp
  | next fits goesOn rest ih =>
    cases i with
    | zero =>
      obtain rfl := Option.some.inj hp
      refine ⟨fits, ?_⟩
      simpa [goesOn] using List.length_pos_iff.mpr rest.ne_nil
    | succ i =>
      obtain ⟨hfits, hiff⟩ := ih (by simpa using hp)
      refine ⟨?_, by simpa using hiff⟩
      rwa [List.take_succ_cons, List.flatMap_cons, Connection.after_append]

inductive IsPassError (d : DriverError) : JobError → Prop
  | clones : IsPassError d (deletionError "clones" d)
  | composes : IsPassError d (deletionError "composes" d)
  | reclaim : IsPassError d (reclaimError d)

theorem Pass.Fits.failed (h : Pass.Fits conn cutoff w p) {e : JobError} (he : p.error? = some e) :
    ∃ before st d, p.statements conn.dialect cutoff = before ++ [st] ∧ conn.Fails (conn.after w before) st d ∧
      IsPassError d e := by
  cases p with
  | clonesFailed d =>
    obtain rfl := Option.some.inj he
    exact ⟨[], _, d, rfl, h, .clones⟩
  | composesFailed n d =>
    obtain rfl := Option.some.inj he
    exact ⟨[_], _, d, rfl, h.2, .composes⟩
  | reclaimFailed n m before st d =>
    obtain rfl := Option.some.inj he
    exact ⟨_ :: _ :: before, st, d, rfl, h.2.2.2.2, .reclaim⟩
  | complete n m => cases he

theorem Passes.failed (h : Passes conn cutoff w ps) {e : JobError} (he : ps.findSome? Pass.error? = some e) :
    ∃ before st d, ps.flatMap (Pass.statements conn.dialect cutoff) = before ++ [st] ∧
      conn.Fails (conn.after w before) st d ∧ IsPassError d e := by
  induction h with
  | last fits _ =>
    rw [List.findSome?_singleton] at he
    simpa using fits.failed he
  | @next w p ps fits goesOn _ ih =>
    rw [List.findSome?_cons, goesOn.error?_eq_none] at he
    obtain ⟨before, st, d, hsts, hfails, hd⟩ := ih he
    refine ⟨p.statements conn.dialect cutoff ++ before, st, d, ?_, ?_, hd⟩
    · rw [List.flatMap_cons, hsts, List.append_assoc]
    · rwa [Connection.after_append]

/-- The loop does what passes do that the connection lets happen. -/
theorem deleteLoop_does (hs : s.IsAt stage k) (h : s.Plain conn (deleteLoop conn cutoff s).2) :
    ∃ ps, Passes conn cutoff s.world ps ∧
      Does conn (deleteLoop conn cutoff) s (ps.flatMap (Pass.statements conn.dialect cutoff))
        (passesRecords k.iterations ps) (passesOutcome ps) stage (ps.foldl Sums.plus k) := by
  have hafter : ∀ rows t, Keeps (Session.Leads conn t) (afterPass conn cutoff rows) := fun rows _ =>
    keeps_afterPass enduring_leads rows
  have hloop : ∀ (_ : Unit) t, Keeps (Session.Leads conn t) (deleteLoop conn cutoff) := fun _ _ =>
    enduring_leads.keeps_deleteLoop cutoff
  -- What is left of the budget bounds the passes that are left, whatever the connection answers.
  induction hb : conn.budget s.world using Nat.strongRecOn generalizing s k with
  | ind b ih =>
    rw [deleteLoop_eq_bind] at h
    obtain ⟨p, hfits, hp⟩ := pass_does hs (h.first (enduring_leads.keeps_pass _) hafter)
    by_cases hgo : p.GoesOn
    · have hok := hp
      rw [Pass.outcome_of_error?_eq_none hgo.error?_eq_none] at hok
      have hmark := markPass_does conn p hok.isAt
      have hplain := h.rest hok hafter
      rw [afterPass_of_goesOn hgo] at hplain
      obtain ⟨ps, hps, hdoes⟩ := ih _ (hb ▸ budget_lt_of_goesOn hp hgo) hmark.isAt (hplain.rest hmark hloop) rfl
      have hworld : (markPass (.number p.clones, .number p.composes) (pass conn cutoff s).2).2.world =
          conn.after s.world (p.statements conn.dialect cutoff) := hp.world
      rw [hworld] at hps
      refine ⟨p :: ps, .next hfits hgo hps, ?_⟩
      rw [List.flatMap_cons, passesRecords_cons _ _ hps.ne_nil, passesOutcome_cons hgo, List.foldl_cons]
      exact does_of_next hp hgo hdoes
    · exact ⟨[p], .last hfits hgo, by simpa [passesRecords] using does_of_last hp hgo⟩

end Loop
end Retention.Run
