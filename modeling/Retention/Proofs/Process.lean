import Mathlib.Data.List.TakeWhile
import Retention.Log.Layout
import Retention.Process
import Retention.Proofs.Settings.Target

/-! # Settings that are admitted

What the checks ask of the settings of an environment. Logging can be set up for every level that
passes them, so a process with admitted settings always starts its run.
-/

namespace Retention.Text

theorem trim_eq_nil_iff {α : Type} {p : α → Bool} {cs : List α} : trim p cs = [] ↔ ∀ c ∈ cs, p c = true := by
  rw [trim, List.reverse_eq_nil_iff, List.dropWhile_eq_nil_iff]
  constructor
  · intro h
    rw [← List.dropWhile_eq_nil_iff]
    by_contra hne
    -- The first of what is left is not of the class.
    have hpos := List.length_pos_iff.mpr hne
    exact List.dropWhile_get_zero_not p cs hpos (h _ (List.mem_reverse.mpr (List.get_mem _ _)))
  · intro h c hc
    rw [List.dropWhile_eq_nil_iff.mpr h] at hc
    cases hc

theorem isEmpty_strip (t : Loose) : t.strip.isEmpty = t.isBlank := by
  rw [Bool.eq_iff_iff, Loose.isEmpty, List.isEmpty_iff, Loose.isBlank, List.all_eq_true, ← trim_eq_nil_iff]
  rfl

end Retention.Text

namespace Retention.Log

open Text

namespace Level

def names : List String :=
  ["CRITICAL", "FATAL", "ERROR", "WARNING", "WARN", "INFO", "DEBUG", "NOTSET"]

/-- The name that a text spells, in any letter case and with spacing around. -/
def spelled (s : String) : String :=
  String.ofList ((trim isSpacing s.toList).map upperChar)

theorem ofName?_isSome_iff {name : String} : (ofName? name).isSome = true ↔ name ∈ names := by
  constructor
  · intro h
    unfold ofName? at h
    split at h <;> first | exact absurd h Bool.false_ne_true | simp [names]
  · intro h
    simp only [names, List.mem_cons, List.not_mem_nil, or_false] at h
    rcases h with rfl | rfl | rfl | rfl | rfl | rfl | rfl | rfl <;> rfl

theorem ofNumber?_number (l : Level) : ofNumber? l.number = some l := by
  cases l <;> rfl

end Level

theorem parseLevelName_ofString (name : String) :
    parseLevelName (.ofString name) = match Level.ofName? (Level.spelled name) with
      | some l => .ok (.number l.number)
      | none => .error (.unknown name) := by
  have htext : Level.ofText? name = Level.ofName? (Level.spelled name) := rfl
  cases hname : Level.ofName? (Level.spelled name) <;>
    simp [parseLevelName, Loose.plain_ofString, Except.toOption, htext, hname]

theorem parseLevelName_eq_ok_iff {t : Loose} :
    (∃ threshold, parseLevelName t = .ok threshold) ↔ ∃ name, t = .ofString name ∧ Level.spelled name ∈ Level.names := by
  constructor
  · rintro ⟨threshold, h⟩
    cases hplain : t.plain with
    | error u =>
      rw [parseLevelName, hplain] at h
      cases h
    | ok name =>
      obtain rfl := Loose.plain_eq_ok_iff.mp hplain
      refine ⟨name, rfl, Level.ofName?_isSome_iff.mp ?_⟩
      rw [parseLevelName_ofString] at h
      cases hl : Level.ofName? (Level.spelled name) with
      | some l => rfl
      | none =>
        rw [hl] at h
        cases h
  · rintro ⟨name, rfl, hname⟩
    obtain ⟨l, hl⟩ := Option.isSome_iff_exists.mp (Level.ofName?_isSome_iff.mpr hname)
    exact ⟨.number l.number, by rw [parseLevelName_ofString, hl]⟩

/-- A level that is named can be put in force. -/
theorem configure_of_named {name : String} (h : Level.spelled name ∈ Level.names) (format : Format) :
    ∃ l, Level.ofName? (Level.spelled name) = some l ∧
      Setup.initial.configure (.text name) format = (.ok (), ⟨some l.number, some ⟨l, format⟩⟩) := by
  obtain ⟨l, hl⟩ := Option.isSome_iff_exists.mp (Level.ofName?_isSome_iff.mpr h)
  have hparse : parseLevel (.text name) = .ok (.number l.number) := by
    rw [parseLevel, parseLevelName_ofString, hl]
  refine ⟨l, hl, ?_⟩
  rw [Setup.configure, hparse]
  simp only [Threshold.rank, Level.ofNumber?_number]
  rfl

theorem current_of_configure {setup setup' : Setup} {level : Value} {format : Format}
    (h : setup.configure level format = (.ok (), setup')) : ∃ c, setup'.current = some c := by
  unfold Setup.configure at h
  split at h
  · cases h
  · dsimp only at h
    split at h
    · cases h
    · cases h
      exact ⟨_, rfl⟩

end Retention.Log

namespace Retention

open Calendar Log Run Settings Text

variable {σ : Type} {env : Environment} {s : Settings Loose}

section Checks

theorem checkedSettings_of_error {problems : List Problem} (h : ofEnvironment env = .error problems) :
    checkedSettings env = .error (problemsText problems) := by
  rw [checkedSettings, h]
  rfl

theorem checkedSettings_of_ok (h : ofEnvironment env = .ok s) :
    checkedSettings env = (s.validate.mapError Invalid.message).map fun _ => s := by
  rw [checkedSettings, h, mapError_ok]
  dsimp only [bind, Except.bind]
  rcases s.validate with _ | _
  · rfl
  · rfl

def Settings.HasUrl (s : Settings Loose) : Prop :=
  ∃ url, s.databaseUrl = some url ∧ url.isBlank = false

def Settings.HasTarget (s : Settings Loose) : Prop :=
  s.HasUrl ∨ s.pgHost.isBlank = false

/-- A URL is given, or what a URL is made of can be encoded. -/
def Settings.IsQuotable (s : Settings Loose) : Prop :=
  s.HasUrl ∨ s.pgUser.unencodable? = none ∧ (s.pgPassword.getD "").unencodable? = none ∧ s.pgDatabase.unencodable? = none

theorem hasUrl_iff : s.HasUrl ↔ (s.databaseUrl.getD "").strip.isEmpty = false := by
  rw [isEmpty_strip, HasUrl]
  cases s.databaseUrl with
  | none => simp [Loose.isBlank]
  | some url => simp

theorem targetOfParts_isOk_iff : (∃ url, s.targetOfParts = .ok url) ↔ s.pgUser.unencodable? = none ∧
    (s.pgPassword.getD "").unencodable? = none ∧ s.pgDatabase.unencodable? = none := by
  simp only [targetOfParts_eq_ok_iff, Loose.unencodable?_eq_none_iff_exists]
  constructor
  · rintro ⟨url, user, password, database, huser, hpassword, hdatabase, -⟩
    exact ⟨⟨user, huser⟩, ⟨password, hpassword⟩, database, hdatabase⟩
  · rintro ⟨⟨user, huser⟩, ⟨password, hpassword⟩, database, hdatabase⟩
    exact ⟨_, user, password, database, huser, hpassword, hdatabase, rfl⟩

theorem isEmpty_of_targetOfParts {url : Loose} (h : s.targetOfParts = .ok url) : url.isEmpty = false := by
  obtain ⟨user, password, database, -, -, -, rfl⟩ := targetOfParts_eq_ok_iff.mp h
  exact isEmpty_login ..

/-- A target is found that is not empty if and only if there is one and it can be encoded. -/
theorem target_isOk_iff : (∃ url, s.target = .ok url ∧ url.isEmpty = false) ↔ s.HasTarget ∧ s.IsQuotable := by
  have hempty : Loose.isEmpty "" = true := rfl
  rw [HasTarget, IsQuotable, hasUrl_iff, ← targetOfParts_isOk_iff, target]
  cases hurl : (s.databaseUrl.getD "").strip.isEmpty with
  | false => simp [hurl]
  | true =>
    cases hhost : s.pgHost.isBlank with
    | true => simp [hempty]
    | false =>
      simp only [Bool.not_true, Bool.false_eq_true, if_false, false_or, true_and, reduceCtorEq]
      exact exists_congr fun url => and_iff_left_of_imp isEmpty_of_targetOfParts

/-- The settings of the environment that meet all conditions. -/
structure Settings.Admitted (env : Environment) (s : Settings Loose) : Prop where
  read : ofEnvironment env = .ok s
  target : s.HasTarget
  months : 1 ≤ s.clonesRetentionMonths
  level : ∃ name, s.logLevel = .ofString name ∧ Level.spelled name ∈ Level.names

theorem validate_eq_ok_iff : s.validate = .ok () ↔ (s.HasTarget ∧ s.IsQuotable) ∧ 1 ≤ s.clonesRetentionMonths ∧
    ∃ name, s.logLevel = .ofString name ∧ Level.spelled name ∈ Level.names := by
  rw [← target_isOk_iff, ← parseLevelName_eq_ok_iff, validate]
  cases s.target with
  | error u => simp [bind, Except.bind]
  | ok url =>
    cases hurl : url.isEmpty with
    | true => simp [bind, Except.bind, hurl]
    | false =>
      by_cases hmonths : s.clonesRetentionMonths < 1
      · have hnot : ¬ 1 ≤ s.clonesRetentionMonths := by omega
        simp [bind, Except.bind, hurl, hmonths, hnot]
      · have hle : 1 ≤ s.clonesRetentionMonths := by omega
        cases parseLevelName s.logLevel <;> simp [bind, Except.bind, pure, Except.pure, hurl, hmonths, hle]

theorem checkedSettings_eq_ok_iff : checkedSettings env = .ok s ↔ Admitted env s ∧ s.IsQuotable := by
  constructor
  · intro h
    cases hread : ofEnvironment env with
    | error problems =>
      rw [checkedSettings_of_error hread] at h
      cases h
    | ok s' =>
      rw [checkedSettings_of_ok hread] at h
      cases hvalid : s'.validate with
      | error e =>
        rw [hvalid] at h
        cases h
      | ok =>
        rw [hvalid] at h
        obtain rfl : s' = s := Except.ok.inj h
        obtain ⟨⟨htarget, hquotable⟩, hmonths, hlevel⟩ := validate_eq_ok_iff.mp hvalid
        exact ⟨⟨hread, htarget, hmonths, hlevel⟩, hquotable⟩
  · rintro ⟨h, hquotable⟩
    rw [checkedSettings_of_ok h.read, validate_eq_ok_iff.mpr ⟨⟨h.target, hquotable⟩, h.months, h.level⟩]
    rfl

theorem Settings.Admitted.eq {s' : Settings Loose} (h : Admitted env s) (h' : Admitted env s') : s = s' :=
  Except.ok.inj (h.read.symm.trans h'.read)

def Settings.defaults : Settings Loose where
  env := "development"
  databaseUrl := none
  pgHost := "localhost"
  pgPort := 5432
  pgDatabase := "imagebuilder"
  pgUser := "postgres"
  pgPassword := none
  pgSslmode := "prefer"
  dryRun := false
  clonesRetentionMonths := 5
  logLevel := "INFO"
  logJson := true

theorem admitted_defaults : Admitted ⟨[]⟩ defaults ∧ defaults.IsQuotable :=
  checkedSettings_eq_ok_iff.mp (by decide +kernel)

end Checks

section Runs

variable {lib : Library} {setup : Setup} {session : Session σ} {next : Session σ → Outcome σ} {r : Record}
  {site : Site σ} {now : Moment} {world : σ}

theorem announce_of_ok {line? : Option String} (h : callLine? lib setup.current now r = .ok line?) :
    announce lib setup now r session next = next (session.log r) := by
  rw [announce, h]

theorem announce_of_error {m : Mishap} (h : callLine? lib setup.current now r = .error m) :
    announce lib setup now r session next = ⟨.crashed (.mishap m), setup, session⟩ := by
  rw [announce, h]

def announced (world : σ) (s : Settings Loose) : Session σ :=
  (Session.start world).log (startRecord s)

@[simp] theorem planOf_url (s : Settings Loose) : (planOf s).url = s.url := by
  simp only [planOf]

@[simp] theorem planOf_dryRun (s : Settings Loose) : (planOf s).dryRun = .bool s.dryRun := by
  simp only [planOf]

@[simp] theorem planOf_months (s : Settings Loose) : (planOf s).months = .int s.clonesRetentionMonths := by
  simp only [planOf]

theorem process_of_error {message : Loose} (h : checkedSettings env = .error message) :
    process lib env site now world =
      let setup := (Setup.initial.configure (.text "INFO") .json).2
      announce lib setup now (invalidRecord message) (Session.start world) fun session => ⟨.status 1, setup, session⟩ := by
  simp only [process, h]

theorem process_of_ok {setup : Setup} (h : checkedSettings env = .ok s)
    (hsetup : Setup.initial.configure s.logLevel (if s.logJson then .json else .console) = (.ok (), setup)) :
    process lib env site now world =
      announce lib setup now (startRecord s) (Session.start world) fun session =>
        let r := run site (planOf s) now session
        ⟨r.1.exit, setup, r.2⟩ := by
  simp only [process, h, hsetup]

def setupOf (l : Level) (s : Settings Loose) : Setup :=
  ⟨some l.number, some ⟨l, if s.logJson then .json else .console⟩⟩

def announcement (s : Settings Loose) (url : Loose) : Record where
  level := .info
  event := .text "maintenance.start"
  fields := [("env", .ofLoose s.env), ("database_url", .ofLoose url), ("dry_run", .bool s.dryRun),
    ("clones_retention_months", .int s.clonesRetentionMonths)]

/-- The level that settings name, the target that is made of them, and what comes of announcing their run. -/
structure Settings.Announced (lib : Library) (now : Moment) (s : Settings Loose) (l : Level) (url : Loose)
    (result : Except Mishap (Option String)) : Prop where
  level : ∃ name, s.logLevel = .ofString name ∧ Level.ofName? (Level.spelled name) = some l
  target : s.target = .ok url
  call : callLine? lib (setupOf l s).current now (announcement s url) = result

theorem Settings.Announced.url {l : Level} {url : Loose} {result : Except Mishap (Option String)}
    (h : s.Announced lib now l url result) : s.url = url := by
  rw [Settings.url, h.target]
  rfl

theorem Settings.Announced.startRecord {l : Level} {url : Loose} {result : Except Mishap (Option String)}
    (h : s.Announced lib now l url result) : startRecord s = announcement s url := by
  rw [Retention.startRecord, h.url]
  rfl

theorem Settings.Admitted.exists_announced (h : Admitted env s) (hquotable : s.IsQuotable) (lib : Library) (now : Moment) :
    ∃ l url result, s.Announced lib now l url result := by
  obtain ⟨name, hname, hnamed⟩ := h.level
  obtain ⟨l, hl, -⟩ := configure_of_named hnamed .json
  obtain ⟨url, htarget, -⟩ := target_isOk_iff.mpr ⟨h.target, hquotable⟩
  exact ⟨l, url, _, ⟨name, hname, hl⟩, htarget, rfl⟩

/-- A process with admitted settings of which a target is made announces its run, with logging set up at the level that they
name. -/
theorem process_of_admitted (h : Admitted env s) (hquotable : s.IsQuotable) {l : Level} {url : Loose}
    {result : Except Mishap (Option String)} (hannounced : s.Announced lib now l url result) :
    process lib env site now world =
      announce lib (setupOf l s) now (announcement s url) (Session.start world) fun session =>
        let r := run site (planOf s) now session
        ⟨r.1.exit, setupOf l s, r.2⟩ := by
  obtain ⟨name, hname, hl⟩ := hannounced.level
  obtain ⟨l', hl', hsetup⟩ := configure_of_named (Level.ofName?_isSome_iff.mp (Option.isSome_of_eq_some hl))
    (if s.logJson then .json else .console)
  obtain rfl := Option.some.inj (hl.symm.trans hl')
  rw [← hannounced.startRecord]
  refine process_of_ok (checkedSettings_eq_ok_iff.mpr ⟨h, hquotable⟩) ?_
  rw [hname, Value.ofLoose_ofString]
  exact hsetup

theorem process_of_announced (h : Admitted env s) (hquotable : s.IsQuotable) {l : Level} {url : Loose}
    {line? : Option String} (hannounced : s.Announced lib now l url (.ok line?)) :
    process lib env site now world =
      let r := run site (planOf s) now (announced world s)
      ⟨r.1.exit, setupOf l s, r.2⟩ := by
  rw [process_of_admitted h hquotable hannounced, announce_of_ok hannounced.call, announced, hannounced.startRecord]

theorem process_of_unannounced (h : Admitted env s) (hquotable : s.IsQuotable) {l : Level} {url : Loose} {m : Mishap}
    (hannounced : s.Announced lib now l url (.error m)) :
    process lib env site now world = ⟨.crashed (.mishap m), setupOf l s, .start world⟩ := by
  rw [process_of_admitted h hquotable hannounced, announce_of_error hannounced.call]

theorem exists_announced_of_taken {l : Level} {url : Loose}
    (hlevel : ∃ name, s.logLevel = .ofString name ∧ Level.ofName? (Level.spelled name) = some l) (htarget : s.target = .ok url)
    (h : (callLine? lib (setupOf l s).current now (announcement s url)).toOption.isSome = true) :
    ∃ line?, s.Announced lib now l url (.ok line?) := by
  cases hcall : callLine? lib (setupOf l s).current now (announcement s url) with
  | ok line? => exact ⟨line?, hlevel, htarget, hcall⟩
  | error m =>
    rw [hcall] at h
    cases h

theorem announced_defaults :
    ∃ l url line?, defaults.Announced (.usual "") (.ofEpochMicros 0) l url (.ok line?) :=
  ⟨.info, "postgresql+psycopg://postgres@localhost:5432/imagebuilder?sslmode=prefer",
    exists_announced_of_taken ⟨"INFO", rfl, by decide +kernel⟩ (by decide +kernel) (by decide +kernel)⟩

end Runs
end Retention
