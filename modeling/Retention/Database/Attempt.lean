import Retention.Database.ConnectionUri
import Retention.Database.ServerAddress
import Retention.Number.RealText

/-! # Attempts to connect

Arguments name hosts, addresses and ports in lists; each host is tried on its own, and twice if a standby is preferred. An
attempt is written as a connection text and read again before its options are checked.
-/

namespace Retention.Database

open Text

inductive ServerArgument where
  | text (s : String)
  | number (n : Int)
  | several (texts : List String)
  deriving DecidableEq, Repr

namespace ServerArgument

def written : ServerArgument → String
  | .text s => s
  | .number n => toString n
  | .several texts => Locator.valuesText texts

def literal : ServerArgument → String
  | .text s => Quoted.text s
  | a => a.written

end ServerArgument

/-- Arguments in the order in which they were first given. -/
abbrev ServerArguments := Named ServerArgument

inductive ServerError where
  | programming (text : String)
  | operational (text : String)
  deriving DecidableEq, Repr

namespace ServerError

def text : ServerError → String
  | .programming text => text
  | .operational text => text

def withText (e : ServerError) (text : String) : ServerError :=
  match e with
  | .programming _ => .programming text
  | .operational _ => .operational text

def toCause : ServerError → Cause
  | .programming text => .driver ⟨.programming, some "psycopg.ProgrammingError", text⟩
  | .operational text => .driver ⟨.operational, some "psycopg.OperationalError", text⟩

end ServerError

namespace Attempt

/-- What an argument says, else the variable that stands in for it. -/
def asked (s : Surroundings) (arguments : ServerArguments) (name : String) : Option String :=
  ((arguments.get? name).map ServerArgument.written).or (ServerOption.fromVariable? s.getVariable name)

/-! ## Splitting -/

/-- The parts of a list that an argument or a variable holds. -/
def partsOf (s : Surroundings) (arguments : ServerArguments) (name : String) : List String :=
  match asked s arguments name with
  | none | some "" => []
  | some text => HostList.split ',' text

def withPart (name : String) (part : Option String) (arguments : ServerArguments) : ServerArguments :=
  match part with
  | some part => arguments.set name (.text part)
  | none => arguments

/-- One attempt for each host. As many addresses as hosts are named, and as many ports or just one. -/
def splitHosts (s : Surroundings) (arguments : ServerArguments) : Except ServerError (List ServerArguments) :=
  let hosts := partsOf s arguments "host"
  let addresses := partsOf s arguments "hostaddr"
  let ports := partsOf s arguments "port"
  let count := max hosts.length addresses.length
  if !hosts.isEmpty && !addresses.isEmpty && hosts.length != addresses.length then
    .error (.operational ("could not match " ++ toString hosts.length ++ " host names with " ++ toString addresses.length ++
      " hostaddr values"))
  else if 1 < ports.length && ports.length != count then
    .error (.operational ("could not match " ++ toString ports.length ++ " port numbers to " ++ toString hosts.length ++
      " hosts"))
  else if count ≤ 1 then .ok [arguments]
  else
    let port (i : Nat) := if ports.length = 1 then ports.head? else ports[i]?
    .ok ((List.range count).map fun i =>
      withPart "port" (port i) (withPart "hostaddr" addresses[i]? (withPart "host" hosts[i]? arguments)))

/-! ## Names of hosts -/

/-- The address of a host. Only this host is known by name. -/
def addressOf? (host : String) : Option String :=
  if ServerAddress.isNumeric host then some host
  else if host = "localhost" then some "127.0.0.1"
  else none

def resolved (s : Surroundings) (arguments : ServerArguments) : Except ServerError ServerArguments :=
  match asked s arguments "host", (asked s arguments "hostaddr").filter (!·.isEmpty) with
  | none, _ | some "", _ | _, some _ => .ok arguments
  | some host, none =>
    if ServerAddress.isSocketHost host then .ok arguments
    else
      match addressOf? host with
      | some address => .ok (arguments.set "hostaddr" (.text address))
      | none => .error (.operational ("failed to resolve host " ++ Quoted.text host ++
          ": [Errno -3] Temporary failure in name resolution"))

/-- The attempts whose hosts are known, or the error of the last host if none is. -/
def knownHosts (attempts : List (Except ServerError ServerArguments)) : Except ServerError (List ServerArguments) :=
  match attempts.filterMap Except.toOption, attempts.getLast? with
  | [], some (.error e) => .error e
  | known, _ => .ok known

/-- The choice of sessions, and the choice that is tried in two ways. -/
def sessionOption : String := "target_session_attrs"

def standbyFirst : String := "prefer-standby"

def all (s : Surroundings) (arguments : ServerArguments) : Except ServerError (List ServerArguments) := do
  let isTwofold := asked s arguments sessionOption = some standbyFirst
  let single ← splitHosts s (if isTwofold then arguments.without [sessionOption] else arguments)
  let known ← knownHosts (single.map (resolved s))
  let choosing (word : String) := known.map fun attempt => attempt.set sessionOption (.text word)
  return if isTwofold then choosing "standby" ++ choosing "any" else known

/-! ## Failing -/

/-- What is wrong with the file in which a service is looked for, and with the service: no file defines one. -/
def serviceError? (s : Surroundings) (values : ServerValues) : Option String :=
  (values "service").map fun service =>
    match (values "servicefile").filter (!s.has ·) with
    | some file => "service file \"" ++ file ++ "\" not found"
    | none => "definition of service \"" ++ service ++ "\" not found"

def unreached (s : Surroundings) (texts : ServerTexts) : Unreached :=
  let values := texts.value? s.getVariable
  match (serviceError? s values).or (ServerCheck.first? values) with
  | some text => ⟨false, text⟩
  | none => ServerAddress.unreached s values (.ofValues values)

def error (s : Surroundings) (arguments : ServerArguments) : ServerError :=
  match ServerTexts.ofText (ConnectionText.write (arguments.map fun a => (a.1, a.2.written))) with
  | .error bad => .programming bad.message
  | .ok texts => .operational (unreached s texts).message

def description (arguments : ServerArguments) : String :=
  let literal (name : String) := ((arguments.get? name).map ServerArgument.literal).getD "None"
  "host: " ++ literal "host" ++ ", port: " ++ literal "port" ++ ", hostaddr: " ++ literal "hostaddr"

/-- The error of the last attempt, with a list of all errors if there are several. Without attempts it is the error that the
arguments have as they are. -/
def errorOfAll (s : Surroundings) (arguments : ServerArguments) (attempts : List ServerArguments) : ServerError :=
  let last := error s (attempts.getLastD arguments)
  let items := attempts.map fun attempt => "- " ++ description attempt ++ ": " ++ (error s attempt).text
  if attempts.length ≤ 1 then last
  else last.withText ("\n".intercalate (last.text :: "Multiple connection attempts failed. All failures were:" :: items))

end Attempt
end Retention.Database
