import Retention.Log.Library

/-! # The logging setup

The first configuration whose level is a threshold fixes the root level for good. A configuration takes effect if its
threshold is one of the levels. A logger obeys the configuration in force at its first call, and the present one until a
configuration is in force.
-/

namespace Retention.Log

open Calendar

/-- A least level and a layout. -/
structure Config where
  level : Level
  format : Format
  deriving DecidableEq, Repr

/-- The fixed root level, if it is fixed, and the configuration in force, if there is one. -/
structure Setup where
  root : Option Int
  current : Option Config
  deriving DecidableEq, Repr

/-- A logger: the configuration that it keeps to, if it was called under one. -/
structure Logger where
  kept : Option Config
  deriving DecidableEq, Repr

inductive BadConfig where
  | level (reason : BadLevel)
  | noSuchLevel (given : Threshold)
  deriving DecidableEq, Repr

def BadConfig.toMishap : BadConfig → Mishap
  | .level reason => reason.toMishap
  | .noSuchLevel given => ⟨.key, given.literal⟩

namespace Config

def enables (c : Config) (level : Level) : Bool :=
  c.level.number ≤ level.number

end Config

/-- The line of a call under a configuration or none, if its level is let through. -/
def callLine? (lib : Library) (config : Option Config) (now : Moment) (r : Record) : Except Mishap (Option String) :=
  match lib.objection? (config.all (·.enables r.level)) r.shown.names with
  | some m => .error m
  | none =>
    match config with
    | some c => if c.enables r.level then (lib.line c.format now r.level r.shown.fields).map some else .ok none
    | none => (lib.bareLine now r).map some

/-- The lines of records; a call that fails has none. -/
def lines (lib : Library) (config : Option Config) (now : Moment) (records : List Record) : List String :=
  records.filterMap fun r => (callLine? lib config now r).toOption.join

namespace Logger

def fresh : Logger := ⟨none⟩

end Logger

namespace Setup

def initial : Setup := ⟨none, none⟩

/-- The root level is that of warnings until it is fixed. -/
def rootLevel (s : Setup) : Int :=
  s.root.getD Level.warning.number

def configure (s : Setup) (level : Value) (format : Format) : Except BadConfig Unit × Setup :=
  match parseLevel level with
  | .error reason => (.error (.level reason), s)
  | .ok threshold =>
    let s := { s with root := s.root.or (some threshold.rank) }
    match Level.ofNumber? threshold.rank with
    | none => (.error (.noSuchLevel threshold), s)
    | some level => (.ok (), { s with current := some ⟨level, format⟩ })

/-- A call on a logger: the line, if one is printed, and the logger after the call. -/
def call (lib : Library) (s : Setup) (logger : Logger) (now : Moment) (r : Record) :
    Except Mishap (Option String) × Logger :=
  let config := logger.kept.or s.current
  (callLine? lib config now r, ⟨config⟩)

end Setup
end Retention.Log
