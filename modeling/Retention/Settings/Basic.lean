import Retention.Settings.Lookup
import Retention.Settings.Reading

/-! # Settings

The settings of the job, where each is looked up, and what is read. A given value wins over the environment, and of two
names the first that is present decides. Some given names are no settings: they say how the environment is looked up.
-/

namespace Retention

/-- The settings of the job, with texts of one kind. -/
structure Settings (τ : Type) where
  env : τ
  databaseUrl : Option τ
  pgHost : τ
  pgPort : Int
  pgDatabase : τ
  pgUser : τ
  pgPassword : Option τ
  pgSslmode : τ
  dryRun : Bool
  clonesRetentionMonths : Int
  logLevel : τ
  logJson : Bool
  deriving DecidableEq, Repr

namespace Settings

open Text

/-- A setting: its name, and the names under which it is looked up, in order. -/
structure Field where
  name : String
  keys : List String
  deriving DecidableEq, Repr

namespace Field

def plain (name : String) : Field := ⟨name, [name]⟩

/-- A connection part has a name with and one without a low line. -/
def pg (part : String) : Field := ⟨"pg_" ++ part, ["pg_" ++ part, "pg" ++ part]⟩

def env : Field := plain "env"
def databaseUrl : Field := plain "database_url"
def pgHost : Field := pg "host"
def pgPort : Field := pg "port"
def pgDatabase : Field := pg "database"
def pgUser : Field := pg "user"
def pgPassword : Field := pg "password"
def pgSslmode : Field := pg "sslmode"
def dryRun : Field := plain "dry_run"
def clonesRetentionMonths : Field := plain "clones_retention_months"
def logLevel : Field := plain "log_level"
def logJson : Field := plain "log_json"

/-- All settings in the order in which they are read. -/
def all : List Field :=
  [env, databaseUrl, pgHost, pgPort, pgDatabase, pgUser, pgPassword, pgSslmode, dryRun, clonesRetentionMonths, logLevel,
    logJson]

end Field

abbrev Given := List (String × Value)

def givenValue? (given : Given) (key : String) : Option Value :=
  (given.find? fun g => Text.lower g.1 == key).map (·.2)

def source? (lookup : Lookup) (env : Environment) (given : Given) (field : Field) : Option Value :=
  (field.keys.findSome? (givenValue? given)).or ((lookup.names field.keys).findSome? (lookup.value? env))

/-- The name that a problem reports: the last of the names that are given just as they are spelled, else the name of the
setting. -/
def Field.reported (field : Field) (given : Given) : String :=
  (field.keys.filter fun key => given.any (·.1 == key)).getLast?.getD field.name

/-- Reading goes on after a problem, with the default in place of the value. -/
abbrev Reader (α : Type) := StateM (List Problem) α

def readField {α : Type} (lookup : Lookup) (env : Environment) (given : Given) (field : Field)
    (read : Value → Except ProblemKind α) (default : α) : Reader α := do
  match source? lookup env given field with
  | none => return default
  | some v =>
    match read v with
    | .ok a => return a
    | .error kind =>
      modify (· ++ [⟨field.reported given, kind, v⟩])
      return default

def unknown (given : Given) : Given :=
  given.filter fun g => !Field.all.any fun f => f.keys.contains (Text.lower g.1)

def reader (lookup : Lookup) (env : Environment) (given : Given) : Reader (Settings Loose) := do
  let field {α : Type} (field : Field) (read : Value → Except ProblemKind α) (default : α) : Reader α :=
    readField lookup env given field read default
  let settings : Settings Loose :=
    { env := ← field .env readText "development"
      databaseUrl := ← field .databaseUrl readText? none
      pgHost := ← field .pgHost readText "localhost"
      pgPort := ← field .pgPort readInt 5432
      pgDatabase := ← field .pgDatabase readText "imagebuilder"
      pgUser := ← field .pgUser readText "postgres"
      pgPassword := ← field .pgPassword readText? none
      pgSslmode := ← field .pgSslmode readText "prefer"
      dryRun := ← field .dryRun readBool false
      clonesRetentionMonths := ← field .clonesRetentionMonths readInt 5
      logLevel := ← field .logLevel readText "INFO"
      logJson := ← field .logJson readBool true }
  modify (· ++ (unknown given).map fun g => ⟨g.1, .extraForbidden, g.2⟩)
  return settings

/-- The settings that an environment and given values make, or all problems in order. -/
def read (lookup : Lookup) (env : Environment) (given : Given) : Except (List Problem) (Settings Loose) :=
  match (reader lookup env given).run [] with
  | (settings, []) => .ok settings
  | (_, problems) => .error problems

def ofEnvironment (env : Environment) : Except (List Problem) (Settings Loose) :=
  read .usual env []

end Settings
end Retention
