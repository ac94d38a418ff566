import Retention.Proofs.Run.Work

/-! # Entries

What the parts of a run may add to its journal: statements, records by their names, and stages. The
bounds hold whatever is answered and however the connection opens and closes. A statement or a
record that is out of bounds for every part is then out of bounds for the run.
-/

namespace Retention.Log.Record

theorem isNamed_unique {r : Record} {name name' : String} (h : r.isNamed name = true)
    (h' : r.isNamed name' = true) : name = name' :=
  Value.text.inj ((isNamed_iff.mp h).symm.trans (isNamed_iff.mp h'))

end Retention.Log.Record

namespace Retention.Run

open Calendar Database Job

variable {σ α β : Type} {conn : Connection σ} {cutoff : Moment}

/-- The statements, the names of records and the stages that are open to a part of a run. -/
structure Scope where
  statements : List Statement
  names : List String
  stages : List Stage

namespace Scope

variable {c d : Scope} {es es' : List Event} {name : String}

/-- Stages have records of their own, and only the opening of a connection notes a URL. -/
def Covers (c : Scope) : Event → Prop
  | .executed st => st ∈ c.statements
  | .logged r => (∃ name ∈ c.names, r.isNamed name = true) ∨ ∃ stage ∈ c.stages, r = stateRecord stage
  | .stepped st => ∀ url, st ≠ .url url
  | .answered | .closed => True
  | .clockRead | .connected _ | .released => False

instance : LE Scope where
  le c d := c.statements ⊆ d.statements ∧ c.names ⊆ d.names ∧ c.stages ⊆ d.stages

theorem Covers.mono {e : Event} (he : c.Covers e) (h : c ≤ d) : d.Covers e := by
  obtain ⟨hstatements, hnames, hstages⟩ := h
  cases e with
  | executed st => exact hstatements he
  | logged r =>
    rcases he with ⟨name, hname, hr⟩ | ⟨stage, hstage, hr⟩
    · exact .inl ⟨name, hnames hname, hr⟩
    · exact .inr ⟨stage, hstages hstage, hr⟩
  | _ => exact he

theorem mem_statements (h : ∀ e ∈ es, c.Covers e) {st : Statement} (hst : st ∈ executed es) : st ∈ c.statements := by
  obtain ⟨e, he, hest⟩ := List.mem_filterMap.mp hst
  have hc := h e he
  cases e with
  | executed st' =>
    obtain rfl := Option.some.inj hest
    exact hc
  | _ => cases hest

theorem named_eq_nil (h : ∀ e ∈ es, c.Covers e) (hname : name ∉ c.names) (hstate : name ≠ "maintenance.state") :
    named name (logged es) = [] := by
  rw [named, List.filter_eq_nil_iff]
  intro r hr hrname
  obtain ⟨e, he, her⟩ := List.mem_filterMap.mp hr
  have hc := h e he
  cases e with
  | logged r' =>
    obtain rfl := Option.some.inj her
    rcases hc with ⟨name', hname', hr'⟩ | ⟨stage, -, rfl⟩
    · exact hname (Log.Record.isNamed_unique hr' hrname ▸ hname')
    · exact hstate (Log.Record.isNamed_unique hrname rfl)
  | _ => cases her

theorem mem_stages {stage : Stage} (h : c.Covers (.logged (stateRecord stage)))
    (hstate : "maintenance.state" ∉ c.names) : stage ∈ c.stages := by
  have hnamed : (stateRecord stage).isNamed "maintenance.state" = true := rfl
  rcases h with ⟨name, hname, hr⟩ | ⟨stage', hstage', hr⟩
  · exact absurd (Log.Record.isNamed_unique hr hnamed ▸ hname) hstate
  · exact stateRecord_injective hr ▸ hstage'

end Scope

section Within

/-- The later session has come from the earlier one by events and stages in the scope. -/
structure Session.Within (c : Scope) (s t : Session σ) : Prop where
  stage : t.stage = s.stage ∨ t.stage ∈ c.stages
  journal : ∃ es, t.journal = s.journal ++ es ∧ ∀ e ∈ es, c.Covers e

def Job.Within (c : Scope) (x : Job σ α) : Prop :=
  ∀ s, Keeps (Session.Within c s) x

variable {c d : Scope} {s t : Session σ} {x : Job σ α}

namespace Session.Within

theorem refl (c : Scope) (s : Session σ) : s.Within c s :=
  ⟨.inl rfl, [], (List.append_nil _).symm, fun _ he => absurd he List.not_mem_nil⟩

theorem note (h : s.Within c t) {e : Event} (he : c.Covers e) : s.Within c (t.note e) := by
  obtain ⟨hstage, es, hj, hes⟩ := h
  refine ⟨hstage, es ++ [e], ?_, ?_⟩
  · rw [Session.note, hj, List.append_assoc]
  · intro e' he'
    rcases List.mem_append.mp he' with he' | he'
    · exact hes e' he'
    · exact List.mem_singleton.mp he' ▸ he

theorem log (h : s.Within c t) {r : Log.Record} (name : String) (hname : name ∈ c.names)
    (hr : r.isNamed name = true) : s.Within c (t.log r) :=
  h.note (.inl ⟨name, hname, hr⟩)

theorem enter (h : s.Within c t) (stage : Stage) (hstage : stage ∈ c.stages) : s.Within c (t.enter stage) := by
  have hentered : s.Within c { t with stage } := ⟨.inr hstage, h.journal⟩
  exact hentered.note (.inr ⟨stage, hstage, rfl⟩)

theorem tally (h : s.Within c t) (tally : Tally) : s.Within c { t with tally } :=
  ⟨h.stage, h.journal⟩

theorem trans {u : Session σ} (hst : s.Within c t) (htu : t.Within c u) : s.Within c u := by
  obtain ⟨hstage, es, hj, hes⟩ := hst
  obtain ⟨hstage', es', hj', hes'⟩ := htu
  refine ⟨?_, es ++ es', by rw [hj', hj, List.append_assoc], ?_⟩
  · rcases hstage' with heq | hmem
    · rwa [heq]
    · exact .inr hmem
  · intro e he
    exact (List.mem_append.mp he).elim (hes e) (hes' e)

theorem mono (h : s.Within c t) (hle : c ≤ d) : s.Within d t := by
  obtain ⟨hstage, es, hj, hes⟩ := h
  exact ⟨hstage.imp_right fun hmem => hle.2.2 hmem, es, hj, fun e he => (hes e he).mono hle⟩

end Session.Within

namespace Job.Within

theorem of_forall (h : ∀ s : Session σ, s.Within c (x s).2) : Within c x := by
  intro s t ht
  have htx := ht.trans (h t)
  rcases hx : x t with ⟨e | a, u⟩ <;> rw [hx] at htx <;> exact htx

theorem run (h : Within c x) (s : Session σ) : s.Within c (x s).2 :=
  (h s).apply (.refl c s)

theorem mono (h : Within c x) (hle : c ≤ d) : Within d x :=
  of_forall fun s => (h.run s).mono hle

theorem done (a : α) : Within c (Job.done a : Job σ α) :=
  fun _ => .done fun _ ht => ht

theorem fail (e : Fault) : Within c (Job.fail e : Job σ α) :=
  fun _ => .fail fun _ ht => ht

theorem failIf (fault : Option Fault) : Within c (Job.failIf fault : Job σ Unit) :=
  fun _ => .failIf fault

theorem ofExcept (r : Except Mishap α) : Within c (Job.ofExcept r : Job σ α) :=
  fun _ => .ofExcept r

theorem note {e : Event} (he : c.Covers e) : Within c (Job.note e : Job σ Unit) :=
  fun _ => .change fun _ ht => ht.note he

theorem log {r : Log.Record} (name : String) (hname : name ∈ c.names) (hr : r.isNamed name = true) :
    Within c (Job.log r : Job σ Unit) :=
  note (.inl ⟨name, hname, hr⟩)

theorem enter {stage : Stage} (hstage : stage ∈ c.stages) : Within c (Job.enter stage : Job σ Unit) :=
  fun _ => .change fun _ ht => ht.enter stage hstage

theorem count (f : Tally → Tally) : Within c (Job.count f : Job σ Unit) :=
  fun _ => .change fun _ ht => ht.tally _

theorem recount (f : Tally → Except Mishap Tally) : Within c (Job.recount f : Job σ Unit) :=
  fun _ => .recount (fun _ _ ht _ => ht.tally _) fun _ _ ht _ => ht

theorem execute {st : Statement} (hst : st ∈ c.statements) : Within c (Job.execute conn st) := by
  intro s
  apply Triple.execute
  · intro t r w ht _
    have hnoted := ht.note (e := .executed st) hst
    have hmoved : s.Within c { t.note (.executed st) with world := w } := ⟨hnoted.stage, hnoted.journal⟩
    exact hmoved.note trivial
  · intro t e w ht _
    have hnoted := ht.note (e := .executed st) hst
    exact ⟨hnoted.stage, hnoted.journal⟩

theorem bind {f : α → Job σ β} (hx : Within c x) (hf : ∀ a, Within c (f a)) : Within c (x >>= f) :=
  fun s => (hx s).bind fun a => hf a s

theorem mapFault {f : Fault → Fault} (h : Within c x) : Within c (x.mapFault f) :=
  fun s => (h s).mapFault

theorem always {cleanup : Job σ Unit} (hx : Within c x) (hc : Within c cleanup) : Within c (x.always cleanup) :=
  fun s => (hx s).always (hc s)

theorem step {st : Step} (hst : ∀ url, st ≠ .url url) (fault : Option Fault) : Within c (step st fault : Job σ Unit) :=
  bind (note hst) fun _ => failIf _

end Job.Within
end Within

section Parts

def Scope.statistics : Scope :=
  ⟨[.stats], ["stats.table", "stats.error"], []⟩

theorem within_readRows (rows : List Value) (fault : Option Fault) :
    Within .statistics (readRows .none rows fault : Job σ _) := by
  induction rows with
  | nil => exact .bind (.failIf _) fun _ => .done _
  | cons row rest ih =>
    apply Job.Within.bind (.ofExcept _)
    intro stat
    apply Job.Within.bind (.log "stats.table" (by decide) rfl)
    intro _
    exact .bind ih fun _ => .done _

theorem within_report : Within .statistics (report conn) := by
  apply Job.Within.bind (.mapFault (.execute (by decide)))
  intro reply
  apply Job.Within.always (.mapFault (within_readRows _ _))
  exact .bind (.note trivial) fun _ => .failIf _

theorem within_statistics : Within .statistics (Run.statistics conn) := by
  apply Job.Within.of_forall
  intro s
  have h : s.Within .statistics (report conn s).2 := within_report.run s
  unfold Run.statistics
  split
  · rename_i hr
    rw [hr] at h
    exact h.log "stats.error" (by decide) rfl
  · exact h

def Scope.count (table : Table) (cutoff : Moment) : Scope :=
  ⟨[table.count cutoff], ["dry_run.count_error"], []⟩

theorem within_countExpired (table : Table) : Within (.count table cutoff) (countExpired conn table cutoff) := by
  apply Job.Within.bind _ fun _ => .ofExcept _
  apply Job.Within.mapFault
  apply Job.Within.bind (.execute (List.mem_singleton_self _))
  intro reply
  unfold scalar
  split
  · exact .done _
  · exact .fail _

theorem within_expectedCount (table : Table) : Within (.count table cutoff) (expectedCount conn table cutoff) := by
  apply Job.Within.of_forall
  intro s
  have h : s.Within (.count table cutoff) (countExpired conn table cutoff s).2 := (within_countExpired table).run s
  unfold expectedCount
  split <;> rename_i hr <;> rw [hr] at h
  · exact h
  · exact h.log "dry_run.count_error" (List.mem_singleton_self _) rfl
  · exact h

/-- The scope of a dry run over an open connection, but for its report of what is expired. -/
def Scope.counting (cutoff : Moment) : Scope where
  statements := [.stats, .countClones cutoff, .countComposes cutoff]
  names := ["stats.table", "stats.error", "dry_run.count_error"]
  stages := [.statsBefore, .dryRunReport, .statsAfter]

def Scope.dry (cutoff : Moment) : Scope :=
  { Scope.counting cutoff with names := "dry_run.expired" :: (Scope.counting cutoff).names }

def Scope.live (dialect : String) (cutoff : Moment) : Scope where
  statements := .stats :: .deleteClones cutoff :: .deleteComposes cutoff :: reclaimStatements dialect
  names := ["stats.table", "stats.error", "retention.rows_deleted", "retention.reclaimed", "retention.pass_complete"]
  stages := [.statsBefore, .deleteLoop, .statsAfter]

theorem Scope.count_le_counting (table : Table) (cutoff : Moment) : Scope.count table cutoff ≤ .counting cutoff := by
  cases table <;> simp [LE.le, Scope.count, Scope.counting, Table.count]

theorem Scope.statistics_le_counting (cutoff : Moment) : Scope.statistics ≤ .counting cutoff := by
  simp [LE.le, Scope.statistics, Scope.counting]

theorem Scope.counting_le_dry (cutoff : Moment) : Scope.counting cutoff ≤ .dry cutoff := by
  simp [LE.le, Scope.dry]

theorem within_dryRunReport : Within (.dry cutoff) (dryRunReport conn cutoff) := by
  have hcount : ∀ table, Within (.dry cutoff) (expectedCount conn table cutoff) := fun table =>
    ((within_expectedCount table).mono (Scope.count_le_counting table cutoff)).mono (Scope.counting_le_dry cutoff)
  apply Job.Within.bind (hcount .clones)
  intro clones
  apply Job.Within.bind (.count _)
  intro _
  apply Job.Within.bind (hcount .composes)
  intro composes
  exact .bind (.count _) fun _ => .log "dry_run.expired" (by simp [Scope.dry]) rfl

theorem within_deleteExpired (table : Table) :
    Within (.live conn.dialect cutoff) (deleteExpired conn table cutoff) := by
  apply Job.Within.bind (.mapFault (.execute (by cases table <;> simp [Scope.live, Table.deletion])))
  intro reply
  apply Job.Within.bind (.ofExcept _)
  intro rows
  exact .bind (.log "retention.rows_deleted" (by simp [Scope.live]) rfl) fun _ => .done _

theorem within_executeAll {c : Scope} {sts : List Statement} (h : sts ⊆ c.statements) :
    Within c (executeAll conn sts) := by
  induction sts with
  | nil => exact .done ()
  | cons st rest ih =>
    obtain ⟨hst, hrest⟩ := List.cons_subset.mp h
    exact .bind (.execute hst) fun _ => ih hrest

theorem within_reclaim : Within (.live conn.dialect cutoff) (reclaim conn) := by
  apply Job.Within.bind (.mapFault (within_executeAll _))
  · exact fun _ => .log "retention.reclaimed" (by simp [Scope.live]) rfl
  · intro st hst
    simp [Scope.live, hst]

theorem within_pass : Within (.live conn.dialect cutoff) (pass conn cutoff) := by
  apply Job.Within.bind (.count _)
  intro _
  apply Job.Within.bind (within_deleteExpired _)
  intro clones
  apply Job.Within.bind (.recount _)
  intro _
  apply Job.Within.bind (within_deleteExpired _)
  intro composes
  apply Job.Within.bind (.recount _)
  intro _
  exact .bind within_reclaim fun _ => .done _

theorem within_deleteLoop : Within (.live conn.dialect cutoff) (deleteLoop conn cutoff) := by
  intro s
  apply triple_deleteLoop
  apply (within_pass s).conseq (fun _ ht => ht) _ fun _ _ ht => ht
  intro rows t ht
  split
  · exact ht
  · exact ht.log "retention.pass_complete" (by simp [Scope.live]) rfl

theorem within_conclude {c : Scope} (hc : .statistics ≤ c) (hstage : .statsAfter ∈ c.stages) :
    Within c (conclude conn) :=
  .bind (.enter hstage) fun _ => .bind (within_statistics.mono hc) fun _ => .count _

def Scope.work (dialect : String) (dryRun : Value) (cutoff : Moment) : Scope :=
  if dryRun.holds then .dry cutoff else .live dialect cutoff

def workNames : List String :=
  ["stats.table", "stats.error", "dry_run.count_error", "dry_run.expired", "retention.rows_deleted",
    "retention.reclaimed", "retention.pass_complete"]

theorem Scope.names_work (dialect : String) (dryRun : Value) (cutoff : Moment) :
    (Scope.work dialect dryRun cutoff).names ⊆ workNames := by
  unfold Scope.work
  split <;> simp [Scope.dry, Scope.counting, Scope.live, workNames]

theorem within_maintain (dryRun : Value) :
    Within (.work conn.dialect dryRun cutoff) (maintain conn dryRun cutoff) := by
  have hstatistics : .statistics ≤ Scope.work conn.dialect dryRun cutoff := by
    unfold Scope.work
    split <;> simp [LE.le, Scope.statistics, Scope.dry, Scope.counting, Scope.live]
  have hstages : ∀ stage ∈ [Stage.statsBefore, .statsAfter], stage ∈ (Scope.work conn.dialect dryRun cutoff).stages := by
    unfold Scope.work
    split <;> simp [Scope.dry, Scope.counting, Scope.live]
  rw [maintain_eq]
  apply Job.Within.bind (.enter (hstages _ (.head _)))
  intro _
  apply Job.Within.bind (within_statistics.mono hstatistics)
  intro before
  apply Job.Within.bind (.count _)
  intro _
  have hconclude : Within _ (conclude conn) := within_conclude hstatistics (hstages _ (.tail _ (.head _)))
  unfold Scope.work undertake at *
  split <;> rename_i hdry
  · rw [if_pos hdry] at hconclude
    exact .bind (.enter (by simp [Scope.dry, Scope.counting])) fun _ => .bind within_dryRunReport fun _ => hconclude
  · rw [if_neg hdry] at hconclude
    exact .bind (.enter (by simp [Scope.live])) fun _ => .bind within_deleteLoop fun _ => hconclude

/-- Behind the URL, which is noted first, opening a connection stays in the scope of the body. -/
theorem within_openConnection {c : Scope} {faults : StepFaults} {url : Text.Loose} {body : Job σ Unit}
    (hbody : Within c body) (s : Session σ) :
    (s.note (.stepped (.url url))).Within c (openConnection faults url body s).2 := by
  have hconnected : Within c (connected faults.options body) := by
    apply Job.Within.bind (.note (e := .stepped (.isolation isolation)) fun _ h => Step.noConfusion h)
    intro _
    exact .bind (.step (fun _ h => Step.noConfusion h) _) fun _ => hbody
  have hopened : Within c (opened faults.connect faults.options faults.close body) := by
    apply Job.Within.bind (.mapFault (.step (fun _ h => Step.noConfusion h) _))
    intro _
    exact .always hconnected (.step (fun _ h => Step.noConfusion h) _)
  have hengine : Within c (do
      (step .create faults.create).mapFault (wrapDriver .connection "Invalid database URL: ")
      (opened faults.connect faults.options faults.close body).always (step .dispose faults.dispose)) := by
    apply Job.Within.bind (.mapFault (.step (fun _ h => Step.noConfusion h) _))
    intro _
    exact .always hopened (.step (fun _ h => Step.noConfusion h) _)
  rw [openConnection_eq]
  exact hengine.run _

end Parts

section Run

variable {faults : StepFaults} {plan : Plan} {now : Moment} {s : Session σ}

/-- The stage and the name of the record with which a run ends, if it reports its end. -/
def Ending.last? : Ending → Option (Stage × String)
  | .done _ => some (.done, "maintenance.done")
  | .aborted .. => some (.aborted, "maintenance.aborted")
  | .crashed _ => none

theorem Ending.mem_last?_names (ending : Ending) {name : String} (h : name ∈ ending.last?.toList.map Prod.snd) :
    name ∈ ["maintenance.done", "maintenance.aborted"] := by
  cases ending with
  | done => exact List.mem_singleton.mp h ▸ .head _
  | aborted => exact List.mem_singleton.mp h ▸ .tail _ (.head _)
  | crashed => cases h

def Scope.ended (c : Scope) (ending : Ending) : Scope where
  statements := c.statements
  names := c.names ++ ending.last?.toList.map Prod.snd
  stages := c.stages ++ ending.last?.toList.map Prod.fst

theorem Scope.not_mem_names_ended {dialect name : String} {dryRun : Value} {ending : Ending} (hname : name ∉ workNames)
    (hend : name ∉ ending.last?.toList.map Prod.snd) :
    name ∉ ((Scope.work dialect dryRun cutoff).ended ending).names := by
  intro h
  rcases List.mem_append.mp h with h | h
  · exact hname (Scope.names_work _ _ _ h)
  · exact hend h

theorem within_finish (c : Scope) (cutoff : Moment) (dryRun : Value) (r : Except Fault Unit) (t : Session σ) :
    t.Within (c.ended (finish cutoff dryRun (r, t)).1) (finish cutoff dryRun (r, t)).2 := by
  rcases r with (cause | e) | _
  · exact .refl _ t
  · have hentered := (Session.Within.refl (c.ended (.aborted e ⟨cutoff, dryRun, t.tally⟩)) t).enter .aborted
      (by simp [Scope.ended, Ending.last?])
    exact hentered.log "maintenance.aborted" (by simp [Scope.ended, Ending.last?]) rfl
  · have hentered := (Session.Within.refl (c.ended (.done ⟨cutoff, dryRun, t.tally⟩)) t).enter .done
      (by simp [Scope.ended, Ending.last?])
    exact hentered.log "maintenance.done" (by simp [Scope.ended, Ending.last?]) rfl

/-- The end of a run executes nothing, and its records are of the state and of the end. -/
theorem events_finish (cutoff : Moment) (dryRun : Value) (r : Except Fault Unit) (t : Session σ) :
    ∃ es, (finish cutoff dryRun (r, t)).2.journal = t.journal ++ es ∧ executed es = [] ∧
      ∀ name ∉ ["maintenance.state", "maintenance.done", "maintenance.aborted"], named name (logged es) = [] := by
  obtain ⟨-, es, hj, hes⟩ := within_finish ⟨[], [], []⟩ cutoff dryRun r t
  refine ⟨es, hj, ?_, fun name hname => ?_⟩
  · rw [List.eq_nil_iff_forall_not_mem]
    exact fun st hst => absurd (Scope.mem_statements hes hst) List.not_mem_nil
  · simp only [List.mem_cons, List.not_mem_nil, or_false, not_or] at hname
    apply Scope.named_eq_nil hes _ hname.1
    cases (finish cutoff dryRun (r, t)).1 <;> simp [Scope.ended, Ending.last?, hname]

theorem run_of_error {site : Site σ} {e : NoCutoff} (h : Calendar.cutoff now plan.months = .error e) :
    run site plan now s = (.crashed (.mishap e.toMishap), starting s) := by
  unfold run
  simp only [h]
  rfl

/-- The first entries of a run that has a cutoff. -/
def openings (url : Text.Loose) : List Event :=
  [.logged (stateRecord .init), .clockRead, .stepped (.url url)]

theorem named_openings {c : Scope} {es : List Event} {name : String} (url : Text.Loose) (hes : ∀ e ∈ es, c.Covers e)
    (hname : name ∉ c.names) (hstate : name ≠ "maintenance.state") : named name (logged (openings url ++ es)) = [] := by
  have hopenings : named name (logged (openings url)) = [] := by
    simp [openings, logged, List.filterMap_cons, Event.record?, named_cons, hstate.symm]
  rw [logged_append, named_append, hopenings, Scope.named_eq_nil hes hname hstate, List.nil_append]

/-- Behind its first entries a run stays in the scope of its work and of its end. -/
theorem run_within (conn : Connection σ) (faults : StepFaults) (s : Session σ)
    (hc : Calendar.cutoff now plan.months = .ok cutoff) :
    let r := run ⟨conn, openConnection faults⟩ plan now s
    let c := (Scope.work conn.dialect plan.dryRun cutoff).ended r.1
    r.2.stage ∈ .init :: c.stages ∧
      ∃ es, r.2.journal = s.journal ++ (openings plan.url ++ es) ∧ ∀ e ∈ es, c.Covers e := by
  intro r c
  have hr : r = finish cutoff plan.dryRun
      (openConnection faults plan.url (maintain conn plan.dryRun cutoff) (starting s)) :=
    run_eq_finish ⟨conn, openConnection faults⟩ hc
  have hwork : ((starting s).note (.stepped (.url plan.url))).Within (.work conn.dialect plan.dryRun cutoff)
      (openConnection faults plan.url (maintain conn plan.dryRun cutoff) (starting s)).2 :=
    within_openConnection (within_maintain plan.dryRun) (starting s)
  generalize openConnection faults plan.url (maintain conn plan.dryRun cutoff) (starting s) = w at hr hwork
  obtain ⟨result, t⟩ := w
  have hend := within_finish (Scope.work conn.dialect plan.dryRun cutoff) cutoff plan.dryRun result t
  rw [← hr] at hend
  have hle : Scope.work conn.dialect plan.dryRun cutoff ≤ c := by
    simp [LE.le, c, Scope.ended]
  obtain ⟨hstage, es, hj, hes⟩ := (hwork.mono hle).trans hend
  refine ⟨?_, es, ?_, hes⟩
  · exact hstage.elim (fun h => List.mem_cons.mpr (.inl h)) fun h => List.mem_cons_of_mem _ h
  · rw [hj, Session.note, journal_starting]
    simp [openings]

end Run
end Retention.Run
