import Retention.Log.Setup
import Retention.Run.Journal
import Retention.Run.Maintenance
import Retention.Settings.Target

/-! # The process

The environment decides the settings. Bad settings are reported on the default setup of logging and nothing else happens;
good ones set up logging and start a run. The process ends with a status, unless something outside the job breaks it off.
-/

namespace Retention

open Calendar Log Run

variable {σ : Type}

inductive Exit where
  | status (code : Nat)
  | crashed (cause : Cause)
  deriving DecidableEq, Repr

/-- The end of a process, the setup of its logging, and its session. -/
structure Outcome (σ : Type) where
  exit : Exit
  setup : Setup
  session : Session σ

def Outcome.lines (lib : Library) (o : Outcome σ) (clock : Moment) : List String :=
  Log.lines lib o.setup.current clock (logged o.session.journal)

def invalidRecord (message : Text.Loose) : Record :=
  .error "config.invalid" [("error", message)]

def startRecord (s : Settings Text.Loose) : Record :=
  .info "maintenance.start" [("env", s.env), ("database_url", s.url), ("dry_run", .bool s.dryRun),
    ("clones_retention_months", .int s.clonesRetentionMonths)]

/-- The settings that pass all checks, or the text of what is wrong. -/
def checkedSettings (env : Settings.Environment) : Except Text.Loose (Settings Text.Loose) := do
  let settings ← (Settings.ofEnvironment env).mapError fun problems => Settings.problemsText problems
  settings.validate.mapError Settings.Invalid.message
  return settings

def planOf (s : Settings Text.Loose) : Plan :=
  ⟨s.url, .bool s.dryRun, .int s.clonesRetentionMonths⟩

def Run.Ending.exit : Ending → Exit
  | .done _ => .status 0
  | .aborted .. => .status 1
  | .crashed cause => .crashed cause

/-- Logs the first record of a process and goes on, unless the library fails. -/
def announce (lib : Library) (setup : Setup) (now : Moment) (r : Record) (session : Session σ)
    (next : Session σ → Outcome σ) : Outcome σ :=
  match callLine? lib setup.current now r with
  | .error m => ⟨.crashed (.mishap m), setup, session⟩
  | .ok _ => next (session.log r)

/-- Runs the process over a site, with one reading of the clock for the run. The library may fail on the first record; it is
taken to write those of the run. -/
def process (lib : Library) (env : Settings.Environment) (site : Site σ) (now : Moment) (world : σ) : Outcome σ :=
  let session := Session.start world
  match checkedSettings env with
  | .error message =>
    let setup := (Setup.initial.configure (.text "INFO") .json).2
    announce lib setup now (invalidRecord message) session fun session => ⟨.status 1, setup, session⟩
  | .ok settings =>
    match Setup.initial.configure settings.logLevel (if settings.logJson then .json else .console) with
    | (.error e, setup) => ⟨.crashed (.mishap e.toMishap), setup, session⟩
    | (.ok (), setup) =>
      announce lib setup now (startRecord settings) session fun session =>
        let (ending, session) := run site (planOf settings) now session
        ⟨ending.exit, setup, session⟩

end Retention
