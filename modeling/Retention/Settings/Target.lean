import Retention.Log.Level
import Retention.Settings.Basic
import Retention.Text.Percent

/-! # The target and the checks

The database URL that settings stand for, and what must hold of settings before the database is touched. Percent-encoding fails
for loose texts, so their settings may have no URL.
-/

namespace Retention.Settings

open Text

/-- User and password, percent-encoded; an empty password is none. -/
def login (user password : String) : String :=
  Percent.encode user ++ (if password.isEmpty then "" else ":" ++ Percent.encode password)

/-- What stands behind the login; host and mode are taken as they are. -/
def address (s : Settings Loose) (database : String) : Loose :=
  s.pgHost ++ ":" ++ toString s.pgPort ++ "/" ++ Percent.encode database ++ "?sslmode=" ++ s.pgSslmode

/-- The URL from the connection parts, if user, password and database can be encoded. -/
def targetOfParts (s : Settings Loose) : Except Unencodable Loose := do
  let user ← s.pgUser.plain
  let password ← (s.pgPassword.getD "").plain
  let database ← s.pgDatabase.plain
  return "postgresql+psycopg://" ++ login user password ++ "@" ++ s.address database

/-- The trimmed URL of the settings, else the one from the parts, else nothing. -/
def target (s : Settings Loose) : Except Unencodable Loose :=
  let url := (s.databaseUrl.getD "").strip
  if !url.isEmpty then .ok url
  else if s.pgHost.isBlank then .ok ""
  else s.targetOfParts

inductive Invalid where
  | unencodable (reason : Unencodable)
  | noTarget
  | noMonths
  | badLevel (reason : Log.BadLevel)
  deriving DecidableEq, Repr

namespace Invalid

def message : Invalid → Loose
  | .unencodable reason => reason.message
  | .noTarget => "DATABASE_URL or PGHOST is required"
  | .noMonths => "CLONES_RETENTION_MONTHS must be at least 1"
  | .badLevel reason => "LOG_LEVEL is invalid: " ++ reason.message

def toMishap (i : Invalid) : Mishap :=
  ⟨match i with | .unencodable _ => .encoding | _ => .value, i.message.faces⟩

end Invalid

/-- There is a target, at least one month, and a level with a known name. -/
def validate (s : Settings Loose) : Except Invalid Unit := do
  let url ← s.target.mapError .unencodable
  if url.isEmpty then throw .noTarget
  if s.clonesRetentionMonths < 1 then throw .noMonths
  match Log.parseLevelName s.logLevel with
  | .ok _ => return ()
  | .error reason => throw (.badLevel reason)

def url (s : Settings Loose) : Loose :=
  s.target.toOption.getD ""

end Retention.Settings
