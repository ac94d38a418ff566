import Retention.Proofs.Calendar.Landing
import Retention.Proofs.Gate
import Retention.Proofs.Run.Escape

/-! # The status of a process

The checks let some settings through on which the process meets what it does not foresee: texts with which the library
cannot write the first record, months that reach back beyond the first year, and URLs for which no engine is made for a
reason that is no error of the driver. Under plain answers these are the only ways in which a process ends without a status.
-/

namespace Retention.Calendar

/-- At least one month leads to a cutoff if and only if it does not lead beyond the first month. -/
theorem cutoff_isOk_iff {now : Moment} {n : Int} (hn : 1 ≤ n) :
    (∃ c, cutoff now (.int n) = .ok c) ↔ n < 12 * (now.date.year - 1) + now.date.month := by
  have hyear := now.date.year_mem
  have hmonth := now.date.month_mem
  rw [cutoff_isOk_iff_year, yearAt_eq, Date.index, monthIndex]
  unfold minYear maxYear at hyear
  omega

end Retention.Calendar

namespace Retention

open Calendar Database Log Run Settings Text

variable {σ : Type} {lib : Library} {env : Environment} {s : Settings Loose} {now : Moment} {world : σ}

/-- The faults of opening a connection, if making the engine fails for some cause or not, and if the server refuses with an
error of the driver or not. -/
def refusing (create : Loose → Option Cause) (refusal? : Loose → Option DriverError) (url : Loose) : StepFaults :=
  { StepFaults.none with
    create := (create url).map .outside
    connect := (refusal? url).map fun d => .outside (.driver d) }

/-- A mishap that leaves a connection before it is opened. -/
def leaving (m : Mishap) : Mishap :=
  if m.kind = .stop then ⟨.runtime, "generator raised StopIteration"⟩ else m

/-- What the checks of settings do not foresee. -/
inductive Unforeseen (lib : Library) (create : Loose → Option Cause) (now : Moment) (s : Settings Loose) : Cause → Prop
  | announcement {l url m} (announced : s.Announced lib now l url (.error m)) :
      Unforeseen lib create now s (.mishap m)
  | months {l url line? e} (announced : s.Announced lib now l url (.ok line?))
      (far : 12 * (now.date.year - 1) + now.date.month ≤ s.clonesRetentionMonths)
      (cutoff : Calendar.cutoff now (.int s.clonesRetentionMonths) = .error e) :
      Unforeseen lib create now s (.mishap e.toMishap)
  | engine {l url line? m} (announced : s.Announced lib now l url (.ok line?))
      (near : s.clonesRetentionMonths < 12 * (now.date.year - 1) + now.date.month)
      (made : create url = some (.mishap m)) : Unforeseen lib create now s (.mishap (leaving m))

theorem leaving_create (m : Mishap) : Step.create.leaving (.outside (.mishap m)) = .outside (.mishap (leaving m)) := by
  obtain ⟨kind, text⟩ := m
  cases kind <;> rfl

theorem cutoff_of_near (hadmitted : Admitted env s)
    (h : s.clonesRetentionMonths < 12 * (now.date.year - 1) + now.date.month) :
    ∃ c, Calendar.cutoff now (planOf s).months = .ok c := by
  rw [planOf_months]
  exact (cutoff_isOk_iff hadmitted.months).mpr h

theorem within_refusing {create : Loose → Option Cause} (refusal? : Loose → Option DriverError) {url : Loose}
    (h : ∀ m, create url ≠ some (.mishap m)) : (refusing create refusal? url).Within IsDriverFault := by
  refine ⟨fun f hf => ?_, fun f hf => ?_, rfl, rfl, rfl⟩
  · obtain ⟨cause, hcause, rfl⟩ := Option.map_eq_some_iff.mp hf
    cases cause with
    | driver d => exact ⟨d, rfl⟩
    | mishap m => exact absurd hcause (h m)
  · obtain ⟨d, -, hd⟩ := Option.map_eq_some_iff.mp hf
    exact ⟨d, hd.symm⟩

theorem crashed_of_unforeseen (conn : Connection σ) {create : Loose → Option Cause}
    (refusal? : Loose → Option DriverError) (hadmitted : Admitted env s) (hquotable : s.IsQuotable) {cause : Cause}
    (h : Unforeseen lib create now s cause) :
    (process lib env (.opening conn (refusing create refusal?)) now world).exit = .crashed cause := by
  cases h with
  | announcement hannounced => rw [process_of_unannounced hadmitted hquotable hannounced]
  | months hannounced far hcutoff =>
    rw [process_of_announced hadmitted hquotable hannounced, run_of_error (by rw [planOf_months, hcutoff])]
    rfl
  | @engine l url line? m hannounced near hmade =>
    obtain ⟨c, hc⟩ := cutoff_of_near hadmitted near
    have hcreate : (refusing create refusal? (planOf s).url).create = some (.outside (.mishap m)) := by
      rw [planOf_url, hannounced.url, refusing, hmade]
      rfl
    have hopened : (openConnection (refusing create refusal? (planOf s).url) (planOf s).url
        (maintain conn (planOf s).dryRun c) (starting (announced world s))).1 = .error (.outside (.mishap (leaving m))) := by
      rw [openConnection_of_create hcreate, leaving_create]
      rfl
    rw [process_of_announced hadmitted hquotable hannounced, run_opening]
    exact congrArg Ending.exit (crashed_of_opening hc hopened)

theorem status_of_foreseen (conn : Connection σ) {create : Loose → Option Cause} (refusal? : Loose → Option DriverError)
    (hadmitted : Admitted env s) (hquotable : s.IsQuotable)
    (hplain : (Session.start world).Plain conn
      (process lib env (.opening conn (refusing create refusal?)) now world).session)
    (hforeseen : ∀ cause, ¬ Unforeseen lib create now s cause) :
    let o := process lib env (.opening conn (refusing create refusal?)) now world
    o.exit = .status 0 ∨ o.exit = .status 1 := by
  obtain ⟨l, url, result, hannounced⟩ := hadmitted.exists_announced hquotable lib now
  cases result with
  | error m => exact absurd (.announcement hannounced) (hforeseen (.mishap m))
  | ok line? =>
    have hnear : s.clonesRetentionMonths < 12 * (now.date.year - 1) + now.date.month := by
      by_contra hfar
      cases hcutoff : Calendar.cutoff now (.int s.clonesRetentionMonths) with
      | ok c => exact hfar ((cutoff_isOk_iff hadmitted.months).mp ⟨c, hcutoff⟩)
      | error e => exact hforeseen _ (.months hannounced (Int.not_lt.mp hfar) hcutoff)
    obtain ⟨c, hc⟩ := cutoff_of_near hadmitted hnear
    rw [planOf_months] at hc
    have hfaults : (refusing create refusal? url).Within IsDriverFault :=
      within_refusing refusal? fun m hmade => hforeseen _ (.engine hannounced hnear hmade)
    exact (started_of_admitted hadmitted hquotable hannounced hfaults hc hplain).ended.status

/-- An environment that asks for thirty thousand months, and its settings. -/
def farReaching : Environment :=
  ⟨[("CLONES_RETENTION_MONTHS", "30000")]⟩

def Settings.farReaching : Settings Loose :=
  { defaults with clonesRetentionMonths := 30000 }

theorem admitted_farReaching : Admitted farReaching .farReaching ∧ Settings.farReaching.IsQuotable :=
  checkedSettings_eq_ok_iff.mp (by decide +kernel)

end Retention
