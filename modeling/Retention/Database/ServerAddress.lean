import Retention.Database.ServerCheck
import Retention.Database.Surroundings

/-! # Addresses of servers

A server listens at a socket in a directory or at an address of a network. The port, the address and the ways to keep a
connection alive are looked at in this order, and then the server itself does not answer.
-/

namespace Retention.Database

open Text

inductive ServerAddress where
  | socket (directory : String)
  | network (address : String)
  deriving DecidableEq, Repr

/-- Why a server is not reached, and whether this shows before or after the connection is under way. -/
structure Unreached where
  isUnderWay : Bool
  text : String
  deriving DecidableEq, Repr

def Unreached.message (u : Unreached) : String :=
  (if u.isUnderWay then "connection failed: " else "connection is bad: ") ++ u.text

namespace ServerAddress

/-- The directory of the socket where no host is named. -/
def usualDirectory : String := "/var/run/postgresql"

def usualPort : Int := 5432

/-- A host that is a directory, or a name of a socket without a file. -/
def isSocketHost (host : String) : Bool :=
  host.toList.head? = some '/' ∨ host.toList.head? = some '@'

/-- An address goes before a host. -/
def ofValues (values : ServerValues) : ServerAddress :=
  match (values "hostaddr").filter (!·.isEmpty), (values "host").filter (!·.isEmpty) with
  | some address, _ => .network address
  | none, some host => if isSocketHost host then .socket host else .network host
  | none, none => .socket usualDirectory

/-! ## Numeric addresses -/

/-- Up to four numbers, the last of which stands for all bytes that are left. -/
def isFourByte (address : String) : Bool :=
  let parts := HostList.split '.' address
  let number (part : String) := Numeral.value (part.toList.filterMap asciiDigit?)
  let last := Nat.pow 256 (5 - parts.length)
  parts.length ≤ 4 && (parts.all fun part => !part.isEmpty && part.toList.all fun c => (asciiDigit? c).isSome) &&
    (parts.dropLast.all fun part => number part < 256) && parts.getLast?.any fun part => number part < last

/-- Groups whose first is only empty if the second is, which is one gap. -/
def withoutEdge? : List String → Option (List String)
  | "" :: "" :: rest => some ("" :: rest)
  | "" :: _ => none
  | groups => some groups

/-- The two groups for which four bytes may stand at the end. -/
def spread (group : String) : List String :=
  if group.toList.contains '.' && isFourByte group then ["0", "0"] else [group]

/-- Groups of at most four hexadecimal digits, eight of them unless one gap leaves some out; four bytes may end them. -/
def isSixteenByte (address : String) : Bool :=
  let groups := HostList.split ':' address
  let spreadGroups := groups.dropLast ++ (groups.getLast?.map spread).getD []
  match (withoutEdge? spreadGroups).bind fun groups => withoutEdge? groups.reverse with
  | none => false
  | some groups =>
    let named := groups.filter (!·.isEmpty)
    2 < spreadGroups.length &&
      (named.all fun group => group.length ≤ 4 && group.toList.all fun c => (hexValue? c).isSome) &&
      if named.length = groups.length then named.length = 8 else named.length + 1 = groups.length && named.length < 8

def isNumeric (address : String) : Bool :=
  isFourByte address || isSixteenByte (String.ofList (address.toList.takeWhile (· != '%')))

/-! ## Reaching a server -/

def portOf (values : ServerValues) : Except String Int :=
  match (values "port").filter (!·.isEmpty) with
  | none => .ok usualPort
  | some text =>
    match ServerCheck.wordOf? text with
    | none => .error (ServerCheck.badNumber "port" text)
    | some n => if 1 ≤ n ∧ n ≤ 65535 then .ok n else .error ("invalid port number: \"" ++ text ++ "\"")

def socketPath (directory : String) (port : Int) : String :=
  directory ++ "/.s.PGSQL." ++ toString port

def socketLimit : Nat := 107

def addressError? (port : Int) : ServerAddress → Option String
  | .socket directory =>
    let path := socketPath directory port
    if path.utf8ByteSize ≤ socketLimit then none
    else some ("Unix-domain socket path \"" ++ path ++ "\" is too long (maximum " ++ toString socketLimit ++ " bytes)")
  | .network address =>
    if isNumeric address then none
    else some ("could not parse network address \"" ++ address ++ "\": Name or service not known")

/-- Credentials that encryption may insist on are never there. -/
def credentialsError? (values : ServerValues) (address : ServerAddress) : Option String :=
  if values "gssencmode" ≠ some "require" then none
  else
    match address with
    | .socket _ => some "GSSAPI encryption required but it is not supported over a local socket"
    | .network _ => some "GSSAPI encryption required but no credential cache"

/-- A time or count that the network does not take; a negative one counts as zero. -/
def limitError? (values : ServerValues) (name constant : String) (greatest : Int) : Option String :=
  (values name).bind fun text =>
    match ServerCheck.wordOf? text with
    | none => some (ServerCheck.badNumber name text)
    | some n => if 1 ≤ n ∧ n ≤ greatest then none else some ("setsockopt(" ++ constant ++ ") failed: Invalid argument")

/-- What is wrong with the ways to keep a connection alive, which can be turned off. -/
def keepaliveError? (values : ServerValues) : Option String :=
  match (values "keepalives").map fun text => (text, ServerCheck.wordOf? text) with
  | some (text, none) => some (ServerCheck.badNumber "keepalives" text)
  | some (_, some 0) => none
  | _ =>
    let timeout := (values "tcp_user_timeout").bind fun text =>
      if (ServerCheck.wordOf? text).isSome then none else some (ServerCheck.badNumber "tcp_user_timeout" text)
    [limitError? values "keepalives_idle" "TCP_KEEPIDLE" 32767,
      limitError? values "keepalives_interval" "TCP_KEEPINTVL" 32767,
      limitError? values "keepalives_count" "TCP_KEEPCNT" 127, timeout].findSome? id

def identity (values : ServerValues) (port : Int) : ServerAddress → String
  | .socket directory => "connection to server on socket \"" ++ socketPath directory port ++ "\" failed: "
  | .network address =>
    let port := ((values "port").filter (!·.isEmpty)).getD (toString usualPort)
    "connection to server at \"" ++ address ++ "\", port " ++ port ++ " failed: "

def socketError (s : Surroundings) (directory : String) : String :=
  if directory.toList.head? = some '@' then "Connection refused"
  else if (passed directory).any s.files.isFile then "Not a directory"
  else "No such file or directory"

def silence (s : Surroundings) (values : ServerValues) (port : Int) (address : ServerAddress) : Unreached :=
  match address with
  | .socket directory => ⟨false, identity values port address ++ socketError s directory ++
      "\n\tIs the server running locally and accepting connections on that socket?"⟩
  | .network _ => ⟨true, identity values port address ++
      "Connection refused\n\tIs the server running on that host and accepting TCP/IP connections?"⟩

def unreached (s : Surroundings) (values : ServerValues) (address : ServerAddress) : Unreached :=
  match portOf values with
  | .error text => ⟨false, text⟩
  | .ok port =>
    match (addressError? port address).or (credentialsError? values address), address, keepaliveError? values with
    | some text, _, _ => ⟨false, text⟩
    | none, .network _, some text => ⟨false, identity values port address ++ text⟩
    | none, _, _ => silence s values port address

example : (["127.0.0.1", "127.1", "::1", "fe80::1%eth0", "1:2:3:4:5:6:7:8", "::ffff:1.2.3.4"].map isNumeric).all id := by
  decide +kernel

example : (["h", "1.2.3.4.5", "256.1", "1.2.3.256", ":1", "1:2:3:4:5:6:7", "12345::", ""].map isNumeric).any id = false := by
  decide +kernel

end ServerAddress
end Retention.Database
