import Retention.Database.Attempt

/-! # Links to servers

What an engine needs to connect to a server: the arguments of a connection, from the parts of a URL and its query. Hosts and
ports are read when the engine is made; everything else is only looked at when it connects. No server can be reached from
here, so every connection fails in the end.
-/

namespace Retention.Database

open Text

/-- The arguments of a connection, and whether many connections are held at once. -/
structure ServerLink where
  isConcurrent : Bool
  arguments : ServerArguments
  deriving DecidableEq, Repr

namespace ServerLink

def portTexts (ports : Option (List (Option Int))) : Option (List String) :=
  match ports with
  | none => none
  | some ports =>
    let texts := ports.map fun port => if port = some 0 then "" else (port.map toString).getD ""
    if texts.length = 1 ∧ texts.all String.isEmpty then none else some texts

def ownArguments (l : Locator) : ServerArguments :=
  let part (name : String) (text : Option String) : ServerArguments :=
    ((text.filter (!·.isEmpty)).map fun text => (name, ServerArgument.text text)).toList
  part "host" l.host ++ part "dbname" l.database ++ part "user" l.user ++ part "password" l.password ++
    ((l.port.filter (· != 0)).map fun port => ("port", ServerArgument.number port)).toList

def queryArguments (l : Locator) : ServerArguments :=
  l.names.map fun name =>
    match l.values name with
    | [value] => (name, .text value)
    | values => (name, .several values)

def hostArguments (list : HostList) : ServerArguments :=
  match list.hosts with
  | none => []
  | some hosts =>
    ("host", .text (",".intercalate hosts)) ::
      ((portTexts list.ports).map fun texts => ("port", ServerArgument.text (",".intercalate texts))).toList

/-- The link that a URL asks for. Hosts in the query come before the host of the URL. -/
def ofLocator (isConcurrent : Bool) (l : Locator) : Except NoHosts ServerLink := do
  let list ← HostList.ofLocator l
  return ⟨isConcurrent, (((ownArguments l).setAll (queryArguments l)).setAll (hostArguments list))⟩

/-! ## Connecting -/

def noConcurrency : Mishap :=
  ⟨.missingLibrary, "The SQLAlchemy asyncio module requires that the Python 'greenlet' library is installed.  " ++
    "In order to ensure this dependency is available, use the 'sqlalchemy[asyncio]' install target:  " ++
    "'pip install sqlalchemy[asyncio]'"⟩

/-- An argument that a function gets anyway. -/
def twice (function name : String) : Mishap :=
  ⟨.type, function ++ "() got multiple values for argument '" ++ name ++ "'"⟩

def typeName : ServerArgument → String
  | .text _ => "str"
  | .number _ => "int"
  | .several _ => "tuple"

/-- Why many connections at once fail: the function that makes one may be given, and it is no function. -/
def concurrentMishap (arguments : ServerArguments) : Mishap :=
  match arguments.get? "async_creator_fn" with
  | some creator => ⟨.type, "'" ++ typeName creator ++ "' object is not callable"⟩
  | none => if (arguments.get? "cls").isSome then twice "AsyncConnection.connect" "cls" else noConcurrency

def ownNames : List String :=
  ["conninfo", "autocommit", "prepare_threshold", "context", "row_factory", "cursor_factory"]

def connectionTexts : ServerArgument → Except Cause ServerTexts
  | .several _ => .error (.mishap ⟨.attribute, "'tuple' object has no attribute 'encode'"⟩)
  | a =>
    match ServerTexts.ofText a.written with
    | .error bad => .error (ServerError.programming bad.message).toCause
    | .ok texts => .ok (ServerOption.all.filterMap fun option => (texts.get? option.name).map fun text => (option.name, text))

def allArguments (arguments : ServerArguments) : Except Cause ServerArguments := do
  let texts ← ((arguments.get? "conninfo").map connectionTexts).getD (.ok [])
  return Named.setAll (texts.map fun (name, text) => (name, ServerArgument.text text)) (arguments.without ownNames)

/-- What is wrong with the time to wait for a connection, which is a number of seconds. -/
def timeoutError? (s : Surroundings) (arguments : ServerArguments) : Option ServerError :=
  (Attempt.asked s arguments "connect_timeout").bind fun text =>
    match RealText.value? text with
    | some (.finite ..) => none
    | _ => some (.programming ("bad value for connect_timeout: " ++ Quoted.text text))

def connectError (s : Surroundings) (link : ServerLink) : Cause :=
  if (link.arguments.get? "self").isSome then .mishap (twice "DefaultDialect.connect" "self")
  else if link.isConcurrent then .mishap (concurrentMishap link.arguments)
  else if (link.arguments.get? "cls").isSome then .mishap (twice "Connection.connect" "cls")
  else
    match allArguments link.arguments with
    | .error cause => cause
    | .ok arguments =>
      match timeoutError? s arguments, Attempt.all s arguments with
      | some e, _ | none, .error e => e.toCause
      | none, .ok attempts => (Attempt.errorOfAll s arguments attempts).toCause

/-- The paths that a link may ask for: the file of services, and what lies on the way to the sockets. -/
def asked (getVariable : String → Option String) (link : ServerLink) : List String :=
  let nowhere : Surroundings := ⟨⟨fun _ => false, fun _ => false⟩, getVariable⟩
  ((Attempt.asked nowhere link.arguments "servicefile").map normalPath).toList ++
    (Attempt.partsOf nowhere link.arguments "host").flatMap passed

end ServerLink
end Retention.Database
