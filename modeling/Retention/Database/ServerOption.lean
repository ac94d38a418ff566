/-! # Options of server connections

Every option has a name. What a connection does not say about it is taken from a variable of the process, and else a default
may hold.
-/

namespace Retention.Database

/-- An option, with the variable and the default that stand in for it. -/
structure ServerOption where
  name : String
  variableName : Option String
  default : Option String
  deriving DecidableEq, Repr

namespace ServerOption

/-- An option that only a connection itself can give. -/
def bare (name : String) : ServerOption := ⟨name, none, none⟩

def withVariable (name variableName : String) : ServerOption := ⟨name, some variableName, none⟩

def withDefault (name variableName default : String) : ServerOption := ⟨name, some variableName, some default⟩

/-- The options in the order in which they are kept. -/
def all : List ServerOption :=
  [withVariable "service" "PGSERVICE", withVariable "servicefile" "PGSERVICEFILE", withVariable "user" "PGUSER",
    withVariable "password" "PGPASSWORD", withVariable "passfile" "PGPASSFILE",
    withDefault "channel_binding" "PGCHANNELBINDING" "prefer", withVariable "connect_timeout" "PGCONNECT_TIMEOUT",
    withVariable "dbname" "PGDATABASE", withVariable "host" "PGHOST", withVariable "hostaddr" "PGHOSTADDR",
    withDefault "port" "PGPORT" "5432", withVariable "client_encoding" "PGCLIENTENCODING",
    withDefault "options" "PGOPTIONS" "", withVariable "application_name" "PGAPPNAME", bare "fallback_application_name",
    bare "keepalives", bare "keepalives_idle", bare "keepalives_interval", bare "keepalives_count", bare "tcp_user_timeout",
    withDefault "sslmode" "PGSSLMODE" "prefer", withDefault "sslnegotiation" "PGSSLNEGOTIATION" "postgres",
    withDefault "sslcompression" "PGSSLCOMPRESSION" "0", withVariable "sslcert" "PGSSLCERT",
    withVariable "sslkey" "PGSSLKEY", withVariable "sslcertmode" "PGSSLCERTMODE", bare "sslpassword",
    withVariable "sslrootcert" "PGSSLROOTCERT", withVariable "sslcrl" "PGSSLCRL", withVariable "sslcrldir" "PGSSLCRLDIR",
    withDefault "sslsni" "PGSSLSNI" "1", withVariable "requirepeer" "PGREQUIREPEER",
    withVariable "require_auth" "PGREQUIREAUTH", withVariable "min_protocol_version" "PGMINPROTOCOLVERSION",
    withVariable "max_protocol_version" "PGMAXPROTOCOLVERSION",
    withDefault "ssl_min_protocol_version" "PGSSLMINPROTOCOLVERSION" "TLSv1.2",
    withVariable "ssl_max_protocol_version" "PGSSLMAXPROTOCOLVERSION", withDefault "gssencmode" "PGGSSENCMODE" "prefer",
    withDefault "krbsrvname" "PGKRBSRVNAME" "postgres", withVariable "gsslib" "PGGSSLIB",
    withDefault "gssdelegation" "PGGSSDELEGATION" "0", bare "replication",
    withDefault "target_session_attrs" "PGTARGETSESSIONATTRS" "any",
    withDefault "load_balance_hosts" "PGLOADBALANCEHOSTS" "disable", bare "scram_client_key", bare "scram_server_key",
    bare "sslkeylogfile", bare "oauth_issuer", bare "oauth_client_id", bare "oauth_client_secret", bare "oauth_scope"]

def named? (name : String) : Option ServerOption :=
  all.find? fun option => option.name == name

def fromVariable? (getVariable : String → Option String) (name : String) : Option String :=
  ((named? name).bind variableName).bind getVariable

end ServerOption

/-- What is given under names, in the order in which the names were first given. -/
abbrev Named (α : Type) := List (String × α)

namespace Named

variable {α : Type}

def get? (given : Named α) (name : String) : Option α :=
  (given.find? fun g => g.1 == name).map (·.2)

/-- A name that is given again keeps its place. -/
def set (given : Named α) (name : String) (a : α) : Named α :=
  if given.any (·.1 == name) then given.map fun g => if g.1 == name then (name, a) else g
  else given ++ [(name, a)]

def setAll (given : Named α) (later : List (String × α)) : Named α :=
  later.foldl (fun given g => given.set g.1 g.2) given

def without (given : Named α) (names : List String) : Named α :=
  given.filter fun g => !names.contains g.1

end Named

abbrev ServerTexts := Named String

namespace ServerTexts

def getOrVariable? (texts : ServerTexts) (getVariable : String → Option String) (name : String) : Option String :=
  (texts.get? name).or (ServerOption.fromVariable? getVariable name)

/-- An old variable that asks for encryption if it starts with a one. -/
def encryptionVariable : String := "PGREQUIRESSL"

/-- The way of encryption where none is given: the old variable may ask for one, and the certificates of the system ask for
the strictest. -/
def defaultMode (texts : ServerTexts) (getVariable : String → Option String) : String :=
  if (getVariable encryptionVariable).any fun s => s.toList.head? = some '1' then "require"
  else if texts.getOrVariable? getVariable "sslrootcert" = some "system" then "verify-full"
  else "prefer"

def value? (texts : ServerTexts) (getVariable : String → Option String) (name : String) : Option String :=
  let own := texts.getOrVariable? getVariable name
  if name = "sslmode" then some (own.getD (texts.defaultMode getVariable))
  else own.or ((ServerOption.named? name).bind ServerOption.default)

end ServerTexts
end Retention.Database
