import Retention.Database.Locator

/-! # Hosts of a server

A query may name several hosts, each with a port or with the ports in a list of their own. Ports are whole numbers and may be
left open; as many ports as hosts are named, unless there is one of each at most.
-/

namespace Retention.Database

open Text

/-- The hosts and ports that a query names; nothing stands for what it does not name. If it names hosts, it has a port for
each, which may be left open. -/
structure HostList where
  hosts : Option (List String)
  ports : Option (List (Option Int))
  deriving DecidableEq, Repr

inductive NoHosts where
  | tooManyParts
  | twoForms
  | badPorts (literals : List String)
  | unequal
  deriving DecidableEq, Repr

def NoHosts.toCause : NoHosts → Cause
  | .tooManyParts => .mishap ⟨.value, "too many values to unpack (expected 2)"⟩
  | .twoForms => .driver ⟨.argument, none, "Can't mix 'multihost' formats together; " ++
      "use \"host=h1,h2,h3&port=p1,p2,p3\" or \"host=h1:p1&host=h2:p2&host=h3:p3\" separately"⟩
  | .badPorts literals =>
    let comma := if literals.length = 1 then "," else ""
    .driver ⟨.argument, none, "Received non-integer port arguments: (" ++ ", ".intercalate literals ++ comma ++ ")"⟩
  | .unequal => .driver ⟨.argument, none, "number of hosts and ports don't match"⟩

namespace HostList

def split (separator : Char) (s : String) : List String :=
  (Text.splitOn separator s.toList).map String.ofList

def parts (s : String) : List (Option String) :=
  if s.toList.contains ':' then (split ':' s).map some else [some s, none]

def isHostChar (c : Char) : Bool :=
  ('a' ≤ c && c ≤ 'z') || ('A' ≤ c && c ≤ 'Z') || ('0' ≤ c && c ≤ '9') || c == '-' || c == '.'

/-- A host name, a colon and digits, up to the end of the line. -/
def hostAndPort? (s : String) : Option (String × Option String) :=
  match s.toList.takeWhile isHostChar, s.toList.dropWhile isHostChar with
  | host, ':' :: rest =>
    let line := if rest.getLast? = some '\n' then rest.dropLast else rest
    if line.all fun c => (digit? c).isSome then
      some (String.ofList host, if line.isEmpty then none else some (String.ofList line))
    else none
  | _, _ => none

/-- Hosts and the texts of their ports, before ports are read; the flag says that ports stand behind their hosts. -/
structure Draft where
  hosts : Option (List String)
  ports : Option (List (Option String))
  isPaired : Bool

/-- The hosts of a query. Of several values each is a host with a port; a single value is a list of hosts, or one host with
its port if no ports are named elsewhere. -/
def draft (hostValues : List String) (hasPorts : Bool) : Except NoHosts Draft :=
  match hostValues with
  | [] => .ok ⟨none, none, false⟩
  | [value] =>
    match if hasPorts then none else hostAndPort? value with
    | some (host, port) => .ok ⟨some [host], some [port], true⟩
    | none => .ok ⟨some (split ',' value), none, false⟩
  | values =>
    let all := values.map parts
    if all.all fun ps => 2 < ps.length then .error .tooManyParts
    else .ok ⟨some (all.map fun ps => (ps.headD none).getD ""), some (all.map fun ps => (ps.drop 1).headD none), true⟩

def portOf : Option String → Option (Option Int)
  | none | some "" => some none
  | some s => (Value.text s).toWhole.toOption.map some

def portsOf (texts : List (Option String)) : Except NoHosts (List (Option Int)) :=
  match texts.mapM portOf with
  | some ports => .ok ports
  | none => .error (.badPorts (texts.map fun text => (text.map Quoted.text).getD "None"))

def areUnequal (hosts : Option (List String)) (ports : List (Option Int)) : Bool :=
  match hosts with
  | none => 1 < ports.length
  | some hosts => hosts.length != ports.length && (1 < hosts.length || 1 < ports.length)

def ofLocator (l : Locator) : Except NoHosts HostList := do
  let portValues := l.values "port"
  let draft ← draft (l.values "host") (!portValues.isEmpty)
  if draft.isPaired && !portValues.isEmpty then throw .twoForms
  let texts := match portValues with
    | [] => draft.ports
    | [value] => some ((split ',' value).map some)
    | values => some (values.map some)
  match texts with
  | none => return ⟨draft.hosts, draft.hosts.map fun hosts => hosts.map fun _ => none⟩
  | some texts =>
    let ports ← portsOf texts
    if areUnequal draft.hosts ports then throw .unequal
    return ⟨draft.hosts, some ports⟩

end HostList
end Retention.Database
