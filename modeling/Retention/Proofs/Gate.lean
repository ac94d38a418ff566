import Retention.Database.Script
import Retention.Proofs.Log.Call
import Retention.Proofs.Process
import Retention.Proofs.Run.Entries
import Retention.Proofs.Run.WriteOnly

/-! # The gate of configuration

A process opens a connection if and only if its settings are admitted, a target can be made of them, and the library takes
the record that announces the run. If one of the first two fails, one record says why and nothing else happens. Otherwise
logging is set up at their level, and the one run that is started goes by their target, their months and whether they ask
for a dry run.
-/

namespace Retention

open Calendar Database Log Run Settings

variable {σ : Type} {lib : Library} {env : Environment} {s : Settings Text.Loose} {l : Level} {url : Text.Loose}
  {conn : Connection σ} {faults : Text.Loose → StepFaults} {now : Moment} {world : σ}

section Targets

variable {es es' : List Event}

def Run.Step.url? : Step → Option Text.Loose
  | .url text => some text
  | _ => none

def targets (journal : List Event) : List Text.Loose :=
  (steps journal).filterMap Step.url?

theorem targets_append (es es' : List Event) : targets (es ++ es') = targets es ++ targets es' := by
  rw [targets, steps_append, List.filterMap_append, targets, targets]

theorem targets_eq_nil {c : Scope} (h : ∀ e ∈ es, c.Covers e) : targets es = [] := by
  rw [targets, List.filterMap_eq_nil_iff]
  intro st hst
  obtain ⟨e, he, hest⟩ := List.mem_filterMap.mp hst
  have hc := h e he
  cases e with
  | stepped st' =>
    obtain rfl := Option.some.inj hest
    cases st' with
    | url url => exact absurd rfl (hc url)
    | _ => rfl
  | _ => cases hest

end Targets

theorem isSome_of_callLine? {c : Config} {r : Record} {line? : Option String}
    (h : callLine? lib (some c) now r = .ok line?) : line?.isSome = true ↔ c.level.number ≤ r.level.number := by
  have henables : c.enables r.level = true ↔ c.level.number ≤ r.level.number := decide_eq_true_iff
  rw [← henables]
  rw [callLine?] at h
  split at h
  · cases h
  · cases henabled : c.enables r.level with
    | false =>
      simp only [henabled, Bool.false_eq_true, if_false, Except.ok.injEq] at h
      simp [← h]
    | true =>
      simp only [henabled, if_true] at h
      cases hline : lib.line c.format now r.level r.shown.fields with
      | error m => rw [hline] at h; cases h
      | ok line =>
        rw [hline] at h
        cases h
        simp

def refusal (message : Text.Loose) : Record where
  level := .error
  event := .text "config.invalid"
  fields := [("error", .ofLoose message)]

/-- Settings that are refused are reported, and nothing else happens. -/
structure Refused (lib : Library) (env : Environment) (now : Moment) (o : Outcome σ) : Prop where
  exit : o.exit = .status 1
  setup : o.setup = ⟨some 20, some ⟨.info, .json⟩⟩
  journal : ∃ message, checkedSettings env = .error message ∧ o.session.journal = [.logged (refusal message)] ∧
    ∃ line, callLine? lib o.setup.current now (refusal message) = .ok (some line)

/-- The status tells how the run ended. -/
structure Ended (o : Outcome σ) : Prop where
  done : o.exit = .status 0 ↔ o.session.stage = .done
  aborted : o.exit = .status 1 ↔ o.session.stage = .aborted
  either : o.session.stage = .done ∨ o.session.stage = .aborted

theorem Ended.of_done {o : Outcome σ} (hexit : o.exit = .status 0) (hstage : o.session.stage = .done) : Ended o := by
  refine ⟨?_, ?_, .inl hstage⟩ <;> simp [hexit, hstage]

theorem Ended.of_aborted {o : Outcome σ} (hexit : o.exit = .status 1) (hstage : o.session.stage = .aborted) :
    Ended o := by
  refine ⟨?_, ?_, .inr hstage⟩ <;> simp [hexit, hstage]

theorem Ended.status {o : Outcome σ} (h : Ended o) : o.exit = .status 0 ∨ o.exit = .status 1 :=
  h.either.imp h.done.mpr h.aborted.mpr

/-- The run that the settings ask for was announced and went its way, and the status tells how it ended. -/
structure Started (lib : Library) (conn : Connection σ) (faults : Text.Loose → StepFaults) (now : Moment) (world : σ)
    (s : Settings Text.Loose) (l : Level) (url : Text.Loose) (o : Outcome σ) : Prop where
  setup : o.setup = setupOf l s
  printed : (∃ line, callLine? lib o.setup.current now (announcement s url) = .ok (some line)) ↔
    l.number ≤ Level.info.number
  records : ∃ rest, logged o.session.journal = announcement s url :: rest ∧
    ∀ name ∈ ["maintenance.start", "config.invalid"], named name rest = []
  targets : targets o.session.journal = [url]
  way : ∃ cutoff recs result stage k, Calendar.cutoff now (.int s.clonesRetentionMonths) = .ok cutoff ∧
    Way conn (faults url).refusal? (.bool s.dryRun) cutoff world (executed o.session.journal) recs result stage k
  ended : Ended o

theorem run_opening (plan : Plan) (t : Session σ) :
    run (.opening conn faults) plan now t = run ⟨conn, openConnection (faults plan.url)⟩ plan now t :=
  rfl

theorem process_of_refused {site : Site σ} {message : Text.Loose} {line : String}
    (hchecked : checkedSettings env = .error message)
    (hline : lib.Takes ⟨.info, .json⟩ now (refusal message) line) :
    process lib env site now world =
      ⟨.status 1, ⟨some 20, some ⟨.info, .json⟩⟩, (Session.start world).log (refusal message)⟩ := by
  have hsetup : (Setup.initial.configure (.text "INFO") .json).2 = ⟨some 20, some ⟨.info, .json⟩⟩ := by decide +kernel
  rw [process_of_error hchecked, hsetup]
  exact announce_of_ok (hline.call rfl)

theorem refused_of_not_admitted {site : Site σ} (h : ∀ s, ¬ (Admitted env s ∧ s.IsQuotable))
    (hrefusal : ∀ message, ∃ line, lib.Takes ⟨.info, .json⟩ now (refusal message) line) :
    Refused lib env now (process lib env site now world) := by
  cases hchecked : checkedSettings env with
  | ok s => exact absurd (checkedSettings_eq_ok_iff.mp hchecked) (h s)
  | error message =>
    obtain ⟨line, hline⟩ := hrefusal message
    rw [process_of_refused hchecked hline]
    exact ⟨rfl, rfl, message, hchecked, rfl, line, hline.call rfl⟩

/-- A run itself neither announces a run nor refuses settings. -/
theorem named_run {dialect : String} {url : Text.Loose} {dryRun : Value} {cutoff : Moment} {ending : Ending} {es : List Event}
    (hes : ∀ e ∈ es, ((Scope.work dialect dryRun cutoff).ended ending).Covers e) :
    ∀ name ∈ ["maintenance.start", "config.invalid"], named name (logged (openings url ++ es)) = [] := by
  intro name hname
  have hother : ∀ name ∈ ["maintenance.start", "config.invalid"], name ∉ workNames ∧ name ≠ "maintenance.state" ∧
      name ∉ ["maintenance.done", "maintenance.aborted"] := by decide
  obtain ⟨hwork, hstate, hlast⟩ := hother name hname
  have hend : name ∉ ending.last?.toList.map Prod.snd := fun hmem => hlast (Ending.mem_last?_names _ hmem)
  exact named_openings url hes (Scope.not_mem_names_ended hwork hend) hstate

theorem started_of_admitted (hadmitted : Admitted env s) (hquotable : s.IsQuotable) {line? : Option String}
    (hannounced : s.Announced lib now l url (.ok line?)) (hfaults : (faults url).Within IsDriverFault)
    {cutoff : Moment} (hc : Calendar.cutoff now (.int s.clonesRetentionMonths) = .ok cutoff)
    (hplain : (Session.start world).Plain conn (process lib env (.opening conn faults) now world).session) :
    Started lib conn faults now world s l url (process lib env (.opening conn faults) now world) := by
  have hurl : (planOf s).url = url := by rw [planOf_url, hannounced.url]
  have hprocess : process lib env (.opening conn faults) now world =
      let r := run (.opening conn faults) (planOf s) now (announced world s)
      ⟨r.1.exit, setupOf l s, r.2⟩ := process_of_announced hadmitted hquotable hannounced
  rw [hprocess, run_opening, hurl] at hplain ⊢
  let r : Ending × Session σ := run ⟨conn, openConnection (faults url)⟩ (planOf s) now (announced world s)
  have hannouncement : startRecord s = announcement s url := hannounced.startRecord
  have hled : (Session.start world).Leads conn (announced world s) := ⟨[.logged (startRecord s)], rfl, rfl⟩
  have hrun : (announced world s).Plain conn r.2 := (hplain.split hled (leads_run ..)).2
  have hmonths : Calendar.cutoff now (planOf s).months = .ok cutoff := by
    rw [planOf_months, hc]
  -- What the run does is known from its way, and where its records come from is known from its scope.
  obtain ⟨sts, recs, stage, k, fs, hfs, hsts, -, -, -, hend⟩ := run_way hfaults hmonths hrun
  obtain ⟨-, es, hj, hes⟩ := run_within conn (faults url) (announced world s) hmonths
  obtain rfl := List.append_cancel_left (hfs.symm.trans hj)
  rw [hurl] at hj hsts
  rw [planOf_dryRun] at hend
  have hjournal : r.2.journal = [.logged (announcement s url)] ++ (openings url ++ es) := hannouncement ▸ hj
  have hexecuted : executed r.2.journal = sts := by
    rw [hjournal, executed_append]
    exact hsts
  obtain ⟨⟨result, hway⟩, hended⟩ : (∃ result, Way conn (faults url).refusal? (.bool s.dryRun)
      cutoff world sts recs result stage k) ∧ Ended ⟨r.1.exit, setupOf l s, r.2⟩ := by
    rcases hend with ⟨hway, hr, hstage, -⟩ | ⟨e, hway, hr, hstage, -⟩
    · exact ⟨⟨_, hway⟩, .of_done (congrArg Ending.exit hr) hstage⟩
    · exact ⟨⟨_, hway⟩, .of_aborted (congrArg Ending.exit hr) hstage⟩
  constructor
  · rfl
  · have hcall : callLine? lib (setupOf l s).current now (announcement s url) = .ok line? := hannounced.call
    rw [← show _ ↔ l.number ≤ Level.info.number from isSome_of_callLine? hcall, hcall, Option.isSome_iff_exists]
    exact exists_congr fun line => by simp
  · refine ⟨logged (openings url ++ es), ?_, named_run hes⟩
    exact (congrArg logged hjournal).trans (logged_append ..)
  · refine (congrArg Retention.targets hjournal).trans ?_
    rw [targets_append, targets_append, targets_eq_nil hes]
    rfl
  · exact ⟨cutoff, recs, result, stage, k, hc, hexecuted ▸ hway⟩
  · exact hended

def idle : Script :=
  [.ok .empty, .ok .empty, .ok .empty, .ok .empty, .ok .empty]

theorem takes_refusal (stack : String) (now : Moment) (message : Text.Loose) :
    ∃ line, (Library.usual stack).Takes ⟨.info, .json⟩ now (refusal message) line := by
  have htext : ∀ name? (text : String), isOverlong (redactValue name? (.text text)) = false := by
    intro name? text
    unfold redactValue
    split <;> simp [isOverlong]
  have hvalue : ∀ name?, isOverlong (redactValue name? (.ofLoose message)) = false := by
    intro name?
    unfold redactValue Value.ofLoose
    split
    · simp [isOverlong]
    · cases message.plain <;> simp [isOverlong]
  have hlong : entriesAreOverlong (stamped stack now.stamp .error (redactFields (withEvent (refusal message)))) = false := by
    simp [stamped, setField, put, withEvent, refusal, redactFields, entriesAreOverlong, htext, hvalue, isOverlong]
  have hline : jsonLine (stamped stack now.stamp .error (redactFields (withEvent (refusal message)))) =
      .ok (Value.jsonObject (stamped stack now.stamp .error (redactFields (withEvent (refusal message))))) := by
    rw [jsonLine, refuseOverlong, hlong]
    rfl
  exact ⟨_, rfl, hline⟩

/-- A user name of one byte that is no UTF-8, and its settings. -/
def unquotable : Environment :=
  ⟨[("PG_USER", .ofBytes [0xFF])]⟩

def Settings.unquotable : Settings Text.Loose :=
  { defaults with pgUser := .ofBytes [0xFF] }

theorem admitted_unquotable : Admitted unquotable .unquotable := by
  have hread : (ofEnvironment unquotable).toOption = some .unquotable := by decide +kernel
  refine ⟨?_, .inr (by decide +kernel), by decide, "INFO", rfl, by decide +kernel⟩
  cases h : ofEnvironment unquotable with
  | ok s =>
    rw [h] at hread
    exact congrArg Except.ok (Option.some.inj hread)
  | error problems =>
    rw [h] at hread
    cases hread

end Retention
