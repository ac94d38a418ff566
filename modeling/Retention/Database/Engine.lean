import Retention.Database.Dialect
import Retention.Database.ServerLink
import Retention.Database.StoreLink
import Retention.Database.Url

/-! # Engines

Whether an engine can be made for a URL, and whether it can connect. A plugin is looked for before the driver, the driver
before the options, and a store that the engine keeps itself has no server.
-/

namespace Retention.Database

/-- What an engine connects to: a server, or a store that it keeps itself. -/
inductive Engine where
  | server (link : ServerLink)
  | store (link : StoreLink)
  deriving DecidableEq, Repr

inductive NoEngine where
  | badUrl (reason : BadUrl)
  | plugin (name : String)
  | driver (reason : NoDriver)
  | hosts (reason : NoHosts)
  | serverPart (url : String)
  | link (reason : NoLink)
  deriving DecidableEq, Repr

def BadUrl.toCause : BadUrl → Cause
  | .unparsable => .driver ⟨.argument, none, "Could not parse SQLAlchemy URL from given URL string"⟩
  | .badPort reason => .mishap reason.toMishap

def NoEngine.toCause : NoEngine → Cause
  | .badUrl reason => reason.toCause
  | .plugin name => .driver ⟨.plugin, none, "Can't load plugin: sqlalchemy.plugins:" ++ name⟩
  | .driver reason => reason.toCause
  | .hosts reason => reason.toCause
  | .serverPart url => .driver ⟨.argument, none, "Invalid SQLite URL: " ++ url ++ "\nValid SQLite URL forms are:\n" ++
      " sqlite:///:memory: (or, sqlite://)\n sqlite:///relative/path/to/file.db\n sqlite:////absolute/path/to/file.db"⟩
  | .link reason => .mishap reason.toMishap

def Locator.hasServerPart (l : Locator) : Bool :=
  l.user.any (!·.isEmpty) || l.password.any (!·.isEmpty) || l.host.isSome || l.port.any (· != 0)

namespace Engine

def pluginNames : List String :=
  ["plugin", "plugins"]

/-- The engine for the parts of a URL; no plugin is known. -/
def ofLocator (l : Locator) : Except NoEngine Engine := do
  if let some name := (l.values "plugin").head? then throw (.plugin name)
  let l := l.without pluginNames
  match ← (Dialect.ofScheme l.scheme).mapError .driver with
  | .server isConcurrent => return .server (← (ServerLink.ofLocator isConcurrent l).mapError .hosts)
  | .embedded =>
    if l.hasServerPart then throw (.serverPart l.hiddenText)
    return .store (← (StoreLink.ofLocator l).mapError .link)

def ofUrl (url : String) : Except NoEngine Engine := do
  let l ← (Locator.parse (withDriver url)).mapError .badUrl
  ofLocator l

def place? : Engine → Option Place
  | .server _ => none
  | .store link => link.place.toOption

def asked (getVariable : String → Option String) : Engine → List String
  | .server link => link.asked getVariable
  | .store link => (link.place.toOption.map Place.asked).getD []

def connectError? (s : Surroundings) : Engine → Option Cause
  | .server link => some (link.connectError s)
  | .store link => link.connectError? s.files

end Engine

def placeOfUrl? (url : String) : Option Place :=
  (Engine.ofUrl url).toOption.bind Engine.place?

end Retention.Database
