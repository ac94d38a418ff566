import Retention.Database.Script
import Retention.Proofs.Process
import Retention.Proofs.Run.Entries

/-! # Faults that escape

The steps around a body are not guarded alike. What keeps an engine from being made or a connection
from being opened becomes an error of the job; what goes wrong while options are set, the connection
is closed or the engine disposed of is passed on as it is, in the place of what was under way. Such
a fault breaks the run off: what it deleted is never reported, and the process ends without a status.
-/

namespace Retention.Run

open Calendar Database Job

variable {σ : Type} {conn : Connection σ} {cutoff : Moment}

section Opening

variable {faults : StepFaults} {url : Text.Loose} {body : Job σ Unit} {s : Session σ} {f : Fault}

/-- A step behind a job is taken in any case, and its fault replaces the end of the job. -/
theorem always_step (x : Job σ Unit) (st : Step) (fault : Option Fault) (s : Session σ) :
    x.always (step st fault) s = ((fault.map st.leaving).elim (x s).1 .error, (x s).2.note (.stepped st)) := by
  cases fault <;> rfl

/-- What the end of a body becomes behind the steps that leave the connection. -/
def StepFaults.leave (faults : StepFaults) (r : Except Fault Unit) : Except Fault Unit :=
  (faults.dispose.map Step.dispose.leaving).elim ((faults.close.map Step.close.leaving).elim r .error) .error

theorem StepFaults.leave_of_none (hclose : faults.close = .none) (hdispose : faults.dispose = .none)
    (r : Except Fault Unit) : faults.leave r = r := by
  simp [StepFaults.leave, hclose, hdispose]

def entered (url : Text.Loose) (s : Session σ) : Session σ :=
  [Step.url url, .create, .connect, .isolation isolation, .options].foldl (fun s st => s.note (.stepped st)) s

def left (s : Session σ) : Session σ :=
  (s.note (.stepped .close)).note (.stepped .dispose)

theorem journal_entered (url : Text.Loose) (s : Session σ) : (entered url s).journal = s.journal ++
    [Step.url url, .create, .connect, .isolation isolation, .options].map .stepped := by
  simp [entered, Session.note]

theorem leads_entered (url : Text.Loose) (s : Session σ) : s.Leads conn (entered url s) :=
  ⟨_, journal_entered url s, rfl⟩

theorem journal_left (s : Session σ) : (left s).journal = s.journal ++ [Step.close, .dispose].map .stepped := by
  simp [left, Session.note]

theorem leads_left (s : Session σ) : s.Leads conn (left s) :=
  ⟨_, journal_left s, rfl⟩

theorem within_entered (c : Scope) (url : Text.Loose) (s : Session σ) :
    (s.note (.stepped (.url url))).Within c (entered url s) :=
  have hstep : ∀ {t : Session σ} (st : Step), (∀ url, st ≠ .url url) → (s.note (.stepped (.url url))).Within c t →
      (s.note (.stepped (.url url))).Within c (t.note (.stepped st)) := fun _ hst ht => ht.note hst
  hstep .options (fun _ h => Step.noConfusion h) (hstep (.isolation isolation) (fun _ h => Step.noConfusion h)
    (hstep .connect (fun _ h => Step.noConfusion h) (hstep .create (fun _ h => Step.noConfusion h) (.refl c _))))

theorem within_left (c : Scope) (t : Session σ) : t.Within c (left t) :=
  have hclose : t.Within c (t.note (.stepped .close)) := (Session.Within.refl c t).note fun _ h => Step.noConfusion h
  hclose.note fun _ h => Step.noConfusion h

/-- Over a connection that is set up, the body does what it does, and then the connection is left. -/
theorem openConnection_entered (hcreate : faults.create = none) (hconnect : faults.connect = none)
    (hoptions : faults.options = none) :
    openConnection faults url body s =
      (faults.leave (body (entered url s)).1, left (body (entered url s)).2) := by
  obtain ⟨create, connect, options, close, dispose⟩ := faults
  obtain rfl : create = none := hcreate
  obtain rfl : connect = none := hconnect
  obtain rfl : options = none := hoptions
  have hopened : ∀ t : Session σ, opened none none close body t =
      (connected none body).always (step .close close) (t.note (.stepped .connect)) := fun _ => rfl
  rw [openConnection_eq]
  calc _ = (opened none none close body).always (step .dispose dispose)
        ((s.note (.stepped (.url url))).note (.stepped .create)) := rfl
    _ = _ := by
      rw [always_step, hopened, always_step]
      rfl

/-- The fault of opening a connection that nothing guards: the last one, if an engine is made. -/
def StepFaults.escaping? (faults : StepFaults) : Option Fault :=
  if faults.create.isSome then .none
  else faults.dispose.or (if faults.connect.isSome then .none else faults.close.or faults.options)

theorem openConnection_escaping (h : faults.escaping? = some f) (hf : IsDriverFault f) :
    (openConnection faults url body s).1 = .error f := by
  obtain ⟨d, rfl⟩ := hf
  obtain ⟨create, connect, options, close, dispose⟩ := faults
  rw [openConnection_eq]
  cases create with
  | some e => cases h
  | none =>
    cases dispose with
    | some e => cases h; rfl
    | none =>
      cases connect with
      | some e => cases h
      | none =>
        cases close with
        | some e => cases h; rfl
        | none =>
          cases options with
          | some e => cases h; rfl
          | none => cases h

theorem openConnection_of_create (h : faults.create = some f) :
    (openConnection faults url body s).1 =
      .error (wrapDriver .connection "Invalid database URL: " (Step.create.leaving f)) := by
  obtain ⟨create, connect, options, close, dispose⟩ := faults
  obtain rfl : create = _ := h
  rfl

theorem openConnection_of_connect (hcreate : faults.create = none) (hdispose : faults.dispose = none)
    (h : faults.connect = some f) :
    (openConnection faults url body s).1 =
      .error (wrapDriver .connection "Error connecting to database: " (Step.connect.leaving f)) := by
  obtain ⟨create, connect, options, close, dispose⟩ := faults
  obtain rfl : create = none := hcreate
  obtain rfl : dispose = none := hdispose
  obtain rfl : connect = _ := h
  rfl

end Opening

section Runs

variable {faults : StepFaults} {plan : Plan} {now : Moment} {s : Session σ}

def StepFaults.all (faults : StepFaults) : List Fault :=
  [faults.create, faults.connect, faults.options, faults.close, faults.dispose].filterMap id

/-- The run was broken off by the cause, and no record tells of its end. -/
structure BrokenOff (cause : Cause) (s : Session σ) (r : Ending × Session σ) : Prop where
  ending : r.1 = .crashed cause
  stage : r.2.stage ≠ .aborted ∧ r.2.stage ≠ .done
  records : ∃ es, r.2.journal = s.journal ++ es ∧ ∀ name ∈ ["maintenance.aborted", "maintenance.done"],
    named name (logged es) = []

/-- The run has told how it ended, and with which totals. -/
structure Reported (r : Ending × Session σ) : Prop where
  summary : r.1.summary?.isSome = true
  stage : r.2.stage = .aborted ∨ r.2.stage = .done

theorem run_entered (hc : Calendar.cutoff now plan.months = .ok cutoff) (hcreate : faults.create = none)
    (hconnect : faults.connect = none) (hoptions : faults.options = none) :
    run ⟨conn, openConnection faults⟩ plan now s =
      let w := maintain conn plan.dryRun cutoff (entered plan.url (starting s))
      finish cutoff plan.dryRun (faults.leave w.1, left w.2) :=
  (run_eq_finish ⟨conn, openConnection faults⟩ hc).trans (congrArg _ (openConnection_entered hcreate hconnect hoptions))

theorem crashed_of_opening {cause : Cause} (hc : Calendar.cutoff now plan.months = .ok cutoff)
    (h : (openConnection faults plan.url (maintain conn plan.dryRun cutoff) (starting s)).1 =
      .error (.outside cause)) : (run ⟨conn, openConnection faults⟩ plan now s).1 = .crashed cause := by
  rw [run_eq_finish ⟨conn, openConnection faults⟩ hc]
  dsimp only
  generalize openConnection faults plan.url (maintain conn plan.dryRun cutoff) (starting s) = r at h
  obtain ⟨result, t⟩ := r
  obtain rfl : result = .error (.outside cause) := h
  rfl

theorem brokenOff_of_escaping {d : DriverError} (hc : Calendar.cutoff now plan.months = .ok cutoff)
    (h : faults.escaping? = some (.outside (.driver d))) :
    BrokenOff (.driver d) s (run ⟨conn, openConnection faults⟩ plan now s) := by
  have hending : (run ⟨conn, openConnection faults⟩ plan now s).1 = .crashed (.driver d) :=
    crashed_of_opening hc (openConnection_escaping h ⟨d, rfl⟩)
  obtain ⟨hstage, es, hj, hes⟩ := run_within conn faults s hc
  rw [hending] at hstage hes
  have hstages : ∀ stage ∈ [Stage.aborted, .done],
      stage ∉ .init :: ((Scope.work conn.dialect plan.dryRun cutoff).ended (.crashed (.driver d))).stages := by
    unfold Scope.work
    split <;> simp [Scope.dry, Scope.counting, Scope.live, Scope.ended, Ending.last?]
  refine ⟨hending, ⟨?_, ?_⟩, _, hj, fun name hname => ?_⟩
  · exact fun h => hstages .aborted (by decide) (h ▸ hstage)
  · exact fun h => hstages .done (by decide) (h ▸ hstage)
  · have hother : ∀ name ∈ ["maintenance.aborted", "maintenance.done"],
        name ∉ workNames ∧ name ≠ "maintenance.state" := by decide
    obtain ⟨hwork, hstate⟩ := hother name hname
    exact named_openings plan.url hes (Scope.not_mem_names_ended hwork List.not_mem_nil) hstate

theorem reported_of_not_escaping (hfaults : ∀ f ∈ faults.all, IsDriverFault f)
    (hc : Calendar.cutoff now plan.months = .ok cutoff) (h : faults.escaping? = none)
    (hplain : s.Plain conn (run ⟨conn, openConnection faults⟩ plan now s).2) :
    Reported (run ⟨conn, openConnection faults⟩ plan now s) := by
  have hrefused : ∀ e, (openConnection faults plan.url (maintain conn plan.dryRun cutoff) (starting s)).1 =
      .error (.job e) → Reported (run ⟨conn, openConnection faults⟩ plan now s) := by
    intro e he
    have hopened : openConnection faults plan.url (maintain conn plan.dryRun cutoff) (starting s) =
        (.error (.job e), (openConnection faults plan.url (maintain conn plan.dryRun cutoff) (starting s)).2) :=
      Prod.ext he rfl
    rw [run_eq_finish ⟨conn, openConnection faults⟩ hc]
    dsimp only
    rw [hopened]
    exact ⟨rfl, .inl rfl⟩
  cases hcreate : faults.create with
  | some f =>
    obtain ⟨d, rfl⟩ := hfaults f (by simp [StepFaults.all, hcreate])
    exact hrefused _ (openConnection_of_create hcreate)
  | none =>
    simp only [StepFaults.escaping?, hcreate, Option.isSome_none, Bool.false_eq_true, if_false, Option.or_eq_none_iff] at h
    obtain ⟨hdispose, h⟩ := h
    cases hconnect : faults.connect with
    | some f =>
      obtain ⟨d, rfl⟩ := hfaults f (by simp [StepFaults.all, hconnect])
      exact hrefused _ (openConnection_of_connect hcreate hdispose hconnect)
    | none =>
      simp only [hconnect, Option.isSome_none, Bool.false_eq_true, if_false, Option.or_eq_none_iff] at h
      obtain rfl : faults = .none := by
        obtain ⟨create, connect, options, close, dispose⟩ := faults
        simp_all [StepFaults.none]
      obtain ⟨_, _, _, _, _, -, -, -, -, -, hend⟩ := run_way (StepFaults.within_none _) hc hplain
      rcases hend with ⟨-, hr, hstage, -⟩ | ⟨e, -, hr, hstage, -⟩
      · exact ⟨by rw [hr]; rfl, .inr hstage⟩
      · exact ⟨by rw [hr]; rfl, .inl hstage⟩

theorem StepFaults.mem_all_of_escaping? {f : Fault} (h : faults.escaping? = some f) : f ∈ faults.all := by
  obtain ⟨create, connect, options, close, dispose⟩ := faults
  cases create <;> cases dispose <;> cases connect <;> cases close <;> cases options <;>
    simp_all [StepFaults.escaping?, StepFaults.all]

/-- A fault that escapes breaks a run off, live or dry, and the process with it; if none escapes, a run
that is answered plainly reports its end. -/
theorem run_escapes (conn : Connection σ) (s : Session σ) (hfaults : ∀ f ∈ faults.all, IsDriverFault f)
    (hc : Calendar.cutoff now plan.months = .ok cutoff) :
    let site : Site σ := ⟨conn, openConnection faults⟩
    (∀ f, faults.escaping? = some f → ∃ d, f = .outside (.driver d) ∧
      BrokenOff (.driver d) s (run site plan now s) ∧
      ∀ lib env settings world, Settings.Admitted env settings → settings.IsQuotable →
        (∃ l url line?, settings.Announced lib now l url (.ok line?)) → planOf settings = plan →
          (process lib env site now world).exit = .crashed (.driver d)) ∧
    (faults.escaping? = none → s.Plain conn (run site plan now s).2 → Reported (run site plan now s)) := by
  intro site
  refine ⟨fun f hf => ?_, reported_of_not_escaping hfaults hc⟩
  obtain ⟨d, rfl⟩ := hfaults f (StepFaults.mem_all_of_escaping? hf)
  refine ⟨d, rfl, brokenOff_of_escaping hc hf, ?_⟩
  rintro lib env settings world hadmitted hquotable ⟨l, url, line?, hannounced⟩ rfl
  rw [process_of_announced hadmitted hquotable hannounced]
  exact congrArg Ending.exit (brokenOff_of_escaping hc hf).ending

def closing : StepFaults :=
  { StepFaults.none with close := some (.outside (.driver ⟨.operational, none, "server closed"⟩)) }

/-- Two clones and three composes are deleted, and the next pass finds nothing. -/
def deleting : Script :=
  [.ok .empty, .ok (.counting 2), .ok (.counting 3), .ok .empty, .ok .empty, .ok .empty, .ok .empty, .ok .empty]

theorem run_unreported :
    let site : Site Script := ⟨Script.connection "postgresql", openConnection closing⟩
    let r := run site (planOf .defaults) (.ofEpochMicros 0) (.start deleting)
    BrokenOff (.driver ⟨.operational, none, "server closed"⟩) (.start deleting) r ∧
      r.2.tally.clonesDeleted = .whole 2 ∧ r.2.tally.composesDeleted = .whole 3 ∧
      (process (.usual "") ⟨[]⟩ site (.ofEpochMicros 0) deleting).exit =
        .crashed (.driver ⟨.operational, none, "server closed"⟩) := by
  intro site r
  have hfaults : ∀ f ∈ closing.all, IsDriverFault f := by
    intro f hf
    obtain rfl := List.mem_singleton.mp hf
    exact ⟨_, rfl⟩
  have hc : Calendar.cutoff (.ofEpochMicros 0) (planOf .defaults).months = .ok (.ofEpochMicros (-13219200000000)) := by
    decide +kernel
  obtain ⟨d, hd, hbroken, hprocess⟩ := (run_escapes (Script.connection "postgresql") (.start deleting) hfaults hc).1 _ rfl
  cases hd
  exact ⟨hbroken, by decide +kernel, by decide +kernel,
    hprocess _ _ _ _ admitted_defaults.1 admitted_defaults.2 announced_defaults rfl⟩

end Runs
end Retention.Run
