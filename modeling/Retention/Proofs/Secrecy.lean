import Retention.Database.Trial
import Retention.Proofs.Gate
import Retention.Proofs.Settings.Target

/-! # The password stays secret

Two environments that differ in their passwords alone make processes that print the same lines and
end the same way, as long as the clock and the database behave the same and the passwords can be encoded. One that cannot
be is reported with its first surrogates and their place, if the target is made of parts.
-/

namespace Retention

open Calendar Log Run Settings Text

variable {σ : Type} {lib : Library} {env env' : Environment} {s : Settings Loose} {p p' : Loose}

section Checks

theorem checkedSettings_of_agree (h : env.AgreeExcept Field.pgPassword.keys env') (hp : HoldsPassword env p)
    (hp' : HoldsPassword env' p') (hsame : p.unencodable? = p'.unencodable?) :
    ∃ r : Except Loose (Settings Loose),
      checkedSettings env = r.map (withPassword p) ∧ checkedSettings env' = r.map (withPassword p') := by
  obtain ⟨r, henv, henv'⟩ := ofEnvironment_of_agree h hp hp'
  cases r with
  | error problems =>
    exact ⟨.error (problemsText problems), checkedSettings_of_error henv, checkedSettings_of_error henv'⟩
  | ok s =>
    refine ⟨((s.withPassword p).validate.mapError Invalid.message).map fun _ => s, ?_, ?_⟩
    · rw [checkedSettings_of_ok henv]
      rcases (s.withPassword p).validate with _ | _
      · rfl
      · rfl
    · rw [checkedSettings_of_ok henv', ← validate_withPassword (sameMasked_target hp.isEmpty hp'.isEmpty hsame)]
      rcases (s.withPassword p).validate with _ | _
      · rfl
      · rfl

/-- The target of an environment whose settings pass the checks. -/
def target? (env : Environment) : Option Loose :=
  (checkedSettings env).toOption.map url

theorem map_target?_of_agree (h : env.AgreeExcept Field.pgPassword.keys env') (hp : HoldsPassword env p)
    (hp' : HoldsPassword env' p') (hsame : p.unencodable? = p'.unencodable?) (faults : StepFaults) :
    (target? env).map (fun _ => faults) = (target? env').map fun _ => faults := by
  obtain ⟨r, henv, henv'⟩ := checkedSettings_of_agree h hp hp' hsame
  rw [target?, target?, henv, henv']
  rcases r with _ | _
  · rfl
  · simp only [Except.map, Except.toOption, Option.map_some]

/-- A password that cannot be encoded is what is wrong with settings whose target is made of parts. -/
theorem checkedSettings_of_unencodable (hread : ofEnvironment env = .ok s) (hp : HoldsPassword env p)
    (hurl : ¬ s.HasUrl) (hhost : s.pgHost.isBlank = false) (huser : s.pgUser.unencodable? = none) {u : Unencodable}
    (hu : p.unencodable? = some u) : checkedSettings env = .error u.message := by
  have hpassword : s.pgPassword = some p := pgPassword_of_holds hread hp
  have hempty : (s.databaseUrl.getD "").strip.isEmpty = true := by
    rwa [hasUrl_iff, Bool.not_eq_false] at hurl
  obtain ⟨user, huser⟩ := Loose.exists_ofString huser
  have htarget : s.target = .error u := by
    have hplain : p.plain = .error u := by rw [Loose.plain, hu]
    simp only [target, targetOfParts, hempty, hhost, huser, hpassword, Loose.plain_ofString, hplain, Option.getD_some, bind,
      Except.bind]
    rfl
  have hvalidate : s.validate = .error (.unencodable u) := by
    rw [validate, htarget]
    rfl
  rw [checkedSettings_of_ok hread, hvalidate]
  rfl

end Checks

section Lines

def Outcome.linesAt (lib : Library) (o : Outcome σ) (clock : Nat → Moment) : List String :=
  Log.linesAt lib o.setup.current clock (logged o.session.journal)

/-- The lines of a process are those of a clock that stands still. -/
theorem Outcome.linesAt_const (lib : Library) (o : Outcome σ) (clock : Moment) :
    o.linesAt lib (fun _ => clock) = o.lines lib clock :=
  Log.linesAt_const _ _ _ _

theorem shown_startRecord (h : SameMasked (s.withPassword p).target (s.withPassword p').target) :
    (startRecord (s.withPassword p)).shown = (startRecord (s.withPassword p')).shown := by
  have hfields : ∀ q, withEvent (startRecord (s.withPassword q)) =
      [("env", .ofLoose s.env), ("database_url", .ofLoose (s.withPassword q).url),
        ("dry_run", .bool s.dryRun), ("clones_retention_months", .int s.clonesRetentionMonths),
        ("event", .text "maintenance.start")] := by
    intro q
    rfl
  have hlevel : ∀ q, (startRecord (s.withPassword q)).level = .info := by
    intro q
    rfl
  have hnames : ∀ q, (startRecord (s.withPassword q)).fields.map (·.1) =
      ["env", "database_url", "dry_run", "clones_retention_months"] := by
    intro q
    rfl
  rw [Record.shown, Record.shown, hlevel, hlevel, hnames, hnames, hfields, hfields]
  simp only [redactFields, List.map_cons, List.map_nil, redactValue_target h]

end Lines

section Runs

variable {now : Moment} {world : σ}

theorem alike_run_withPassword (conn : Database.Connection σ) {faults faults' : Loose → StepFaults}
    (h : SameMasked (s.withPassword p).target (s.withPassword p').target)
    (hfaults : faults (s.withPassword p).url = faults' (s.withPassword p').url) :
    let r := run (.opening conn faults) (planOf (s.withPassword p)) now (announced world (s.withPassword p))
    let r' := run (.opening conn faults') (planOf (s.withPassword p')) now (announced world (s.withPassword p'))
    r.1 = r'.1 ∧ r.2.Alike r'.2 := by
  have hdry : ∀ q, (planOf (s.withPassword q)).dryRun = .bool s.dryRun := by
    intro q
    rfl
  have hmonths : ∀ q, (planOf (s.withPassword q)).months = .int s.clonesRetentionMonths := by
    intro q
    rfl
  have hstart : (Session.start world).Alike (Session.start world) := ⟨rfl, rfl, rfl, rfl⟩
  apply alike_run conn
  · simp only [planOf, hfaults]
  · rw [hdry, hdry]
  · rw [hmonths, hmonths]
  · exact hstart.log (shown_startRecord h)

theorem process_alike (lib : Library) (conn : Database.Connection σ) {faults faults' : Loose → StepFaults}
    (h : env.AgreeExcept Field.pgPassword.keys env') (hp : HoldsPassword env p) (hp' : HoldsPassword env' p')
    (hsame : p.unencodable? = p'.unencodable?) (hfaults : (target? env).map faults = (target? env').map faults')
    (now : Moment) (world : σ) :
    let o := process lib env (.opening conn faults) now world
    let o' := process lib env' (.opening conn faults') now world
    o.exit = o'.exit ∧ ∀ clock, o.linesAt lib clock = o'.linesAt lib clock := by
  obtain ⟨r, henv, henv'⟩ := checkedSettings_of_agree h hp hp' hsame
  cases r with
  | error message =>
    have hprocess : process lib env (.opening conn faults) now world =
        process lib env' (.opening conn faults') now world := by
      simp only [process, henv, henv', Except.map]
    simp only [hprocess, implies_true, and_self]
  | ok s =>
    have hlevel : ∀ q, (s.withPassword q).logLevel = s.logLevel := fun q => rfl
    have hjson : ∀ q, (s.withPassword q).logJson = s.logJson := fun q => rfl
    have hmasked : SameMasked (s.withPassword p).target (s.withPassword p').target :=
      sameMasked_target hp.isEmpty hp'.isEmpty hsame
    rcases hsetup : Setup.initial.configure s.logLevel (if s.logJson then .json else .console)
      with ⟨e | _, setup⟩
    · have hprocess : process lib env (.opening conn faults) now world =
          process lib env' (.opening conn faults') now world := by
        simp only [process, henv, henv', Except.map, hlevel, hjson, hsetup]
      simp only [hprocess, implies_true, and_self]
    · obtain ⟨c, hc⟩ := current_of_configure hsetup
      have hcall : callLine? lib setup.current now (startRecord (s.withPassword p)) =
          callLine? lib setup.current now (startRecord (s.withPassword p')) := by
        rw [hc]
        exact callLine?_eq_of_shown (shown_startRecord hmasked) now
      rw [process_of_ok henv hsetup, process_of_ok henv' hsetup]
      cases hresult : callLine? lib setup.current now (startRecord (s.withPassword p)) with
      | error m =>
        rw [announce_of_error hresult, announce_of_error (hcall ▸ hresult)]
        exact ⟨rfl, fun _ => rfl⟩
      | ok line? =>
        rw [announce_of_ok hresult, announce_of_ok (hcall ▸ hresult)]
        rw [target?, target?, henv, henv'] at hfaults
        obtain ⟨hend, halike⟩ := alike_run_withPassword conn hmasked (Option.some.inj hfaults)
        simp only [Outcome.linesAt, hc]
        exact ⟨congrArg Ending.exit hend, linesAt_eq_of_shown halike.shown⟩

end Runs

/-- What a process prints and how it ends do not depend on the password, if opening the target goes
wrong alike and both passwords can be encoded, or fail to be for the same surrogates. But of a password that cannot be
encoded the surrogates and their place are logged, if the target is made of parts. -/
theorem process_eq_of_agree (lib : Library) (conn : Database.Connection σ) {faults faults' : Loose → StepFaults}
    (h : env.AgreeExcept Field.pgPassword.keys env') (hp : HoldsPassword env p) (hp' : HoldsPassword env' p')
    (hfaults : (target? env).map faults = (target? env').map faults') (now : Moment) (world : σ) :
    let o := process lib env (.opening conn faults) now world
    let o' := process lib env' (.opening conn faults') now world
    (p.unencodable? = p'.unencodable? → o.exit = o'.exit ∧ ∀ clock, o.linesAt lib clock = o'.linesAt lib clock) ∧
      ∀ s u, ofEnvironment env = .ok s → ¬ s.HasUrl → s.pgHost.isBlank = false → s.pgUser.unencodable? = none →
        p.unencodable? = some u → (∃ line, lib.Takes ⟨.info, .json⟩ now (refusal u.message) line) →
          o.exit = .status 1 ∧ logged o.session.journal = [refusal u.message] := by
  refine ⟨fun hsame => process_alike lib conn h hp hp' hsame hfaults now world, ?_⟩
  rintro s u hread hurl hhost huser hu ⟨line, hline⟩
  have hchecked : checkedSettings env = .error u.message := checkedSettings_of_unencodable hread hp hurl hhost huser hu
  rw [process_of_refused hchecked hline]
  exact ⟨rfl, rfl⟩

/-- A host that looks like one more URL, and a password under one of its names. -/
def withSecret (name : String) (secret : Loose) : Environment :=
  ⟨[("PGHOST", "db://a:b@c"), (name, secret), ("LOG_JSON", "no")]⟩

theorem process_eq_of_secrets :
    let o := process (.usual "") (withSecret "PG_PASSWORD" "first:se/cret@")
      (.opening (Database.Trial.connection "postgresql") fun _ => .none) (.ofEpochMicros 0) (.quiet .bare)
    let o' := process (.usual "") (withSecret "pgPassword" "ß")
      (.opening (Database.Trial.connection "postgresql") fun _ => .none) (.ofEpochMicros 0) (.quiet .bare)
    o.exit = o'.exit ∧ ∀ clock, o.linesAt (.usual "") clock = o'.linesAt (.usual "") clock := by
  have hagree : (withSecret "PG_PASSWORD" "first:se/cret@").AgreeExcept Field.pgPassword.keys
      (withSecret "pgPassword" "ß") := by decide +kernel
  have hfirst : HoldsPassword (withSecret "PG_PASSWORD" "first:se/cret@") "first:se/cret@" :=
    ⟨by rfl, by decide⟩
  have hother : HoldsPassword (withSecret "pgPassword" "ß") "ß" := ⟨by rfl, by decide⟩
  have htargets := map_target?_of_agree hagree hfirst hother (by simp) .none
  exact (process_eq_of_agree (.usual "") _ hagree hfirst hother htargets _ _).1 (by simp)

/-- A password that ends in a byte that is no UTF-8 ends the process otherwise than one that can be encoded. -/
theorem process_ne_of_secrets :
    let env : Environment := ⟨[("PG_PASSWORD", .ofBytes [0x73, 0xE9])]⟩
    let env' : Environment := ⟨[("PG_PASSWORD", "hunter2")]⟩
    env.AgreeExcept Field.pgPassword.keys env' ∧ HoldsPassword env (.ofBytes [0x73, 0xE9]) ∧ HoldsPassword env' "hunter2" ∧
      let site : Site Database.Script := .opening (Database.Script.connection "postgresql") fun _ => .none
      (process (.usual "") env site (.ofEpochMicros 0) idle).exit = .status 1 ∧
        (process (.usual "") env' site (.ofEpochMicros 0) idle).exit = .status 0 :=
  ⟨by decide +kernel, ⟨by rfl, by decide +kernel⟩, ⟨by rfl, by decide⟩, by decide +kernel, by decide +kernel⟩

end Retention
