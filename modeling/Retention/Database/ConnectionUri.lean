import Retention.Database.ConnectionText
import Retention.Database.HostList
import Retention.Text.Percent

/-! # Connection texts as URIs

A connection text may be a URI: a user with a password, hosts with their ports in a list, a database and a query of options,
all percent-encoded. Its parts are read from left to right, and the first flaw is the one that counts.
-/

namespace Retention.Database

open Text

namespace ConnectionUri

/-! ## Percent-encoding -/

/-- Every percent sign stands before two digits that are not both zero, and nothing stands behind a blank but spaces. -/
def checkEncoded (text : String) : List Char → Except BadConnectionText Unit
  | [] => .ok ()
  | '%' :: a :: b :: rest =>
    match hexValue? a, hexValue? b with
    | some 0, some 0 => .error (.zeroByte text)
    | some _, some _ => checkEncoded text rest
    | _, _ => .error (.badPercent text)
  | '%' :: _ => .error (.badPercent text)
  | c :: rest =>
    if !isAsciiBlank c then checkEncoded text rest
    else if (c :: rest).all (· == ' ') then .ok ()
    else .error (.spaces text)

def decoded (cs : List Char) : Except BadConnectionText String := do
  let body := cs.dropWhile (· == ' ')
  checkEncoded (String.ofList cs) body
  return Percent.decode (String.ofList (body.takeWhile fun c => !isAsciiBlank c))

def partOf (name : String) (cs : List Char) : Except BadConnectionText (List (String × String)) := do
  if cs.isEmpty then return []
  return [(name, ← decoded cs)]

/-! ## Hosts -/

def isHostEnd (c : Char) : Bool :=
  c == ':' || c == '/' || c == '?' || c == ','

def hostPart (uri : String) (cs : List Char) : Except BadConnectionText (List Char × List Char) :=
  match cs with
  | '[' :: rest =>
    match cutAt? (· == ']') rest with
    | none => .error (.noEndBracket uri)
    | some ([], _, _) => .error (.noAddress uri)
    | some (address, _, after) =>
      match after.head?.filter (!isHostEnd ·) with
      | some c => .error (.unexpected c (uri.utf8ByteSize - (String.ofList after).utf8ByteSize + 1) uri)
      | none => .ok (address, after)
  | cs => .ok (cs.takeWhile fun c => !isHostEnd c, cs.dropWhile fun c => !isHostEnd c)

def portPart : List Char → List Char × List Char
  | ':' :: rest =>
    let isEnd (c : Char) := c == '/' || c == '?' || c == ','
    (rest.takeWhile fun c => !isEnd c, rest.dropWhile fun c => !isEnd c)
  | cs => ([], cs)

/-- The list of hosts, the list of ports and what follows them. At most so many commas are passed. -/
def hostParts (uri : String) : Nat → List Char → Except BadConnectionText (List Char × List Char × List Char)
  | 0, cs => .ok ([], [], cs)
  | commas + 1, cs => do
    let (host, rest) ← hostPart uri cs
    match portPart rest with
    | (port, ',' :: rest) =>
      let (hosts, ports, rest) ← hostParts uri commas rest
      return (host ++ ',' :: hosts, port ++ ',' :: ports, rest)
    | (port, rest) => return (host, port, rest)

/-! ## Queries -/

/-- An item of a query has one equals sign. -/
def itemOf (item : List Char) : Except BadConnectionText (String × String) := do
  match HostList.split '=' (String.ofList item) with
  | [_] => throw (.noItemEquals (String.ofList item))
  | [name, text] =>
    let name ← decoded name.toList
    let text ← decoded text.toList
    if name = "ssl" ∧ text = "true" then return ("sslmode", "require")
    (ConnectionText.known? name text).elim (throw (.unknownInUri name)) pure
  | parts => throw (.secondEquals (parts.headD ""))

/-- The items of a query in order; nothing stands behind a last ampersand. -/
def queryItems (cs : List Char) : Except BadConnectionText (List (String × String)) :=
  let items := Text.splitOn '&' cs
  (if items.getLast? = some [] then items.dropLast else items).mapM itemOf

/-! ## All parts -/

/-- User and password before the first at sign, unless a slash comes first. -/
def userParts (cs : List Char) : Except BadConnectionText (List (String × String) × List Char) :=
  match cutAt? (fun c => c == '@' || c == '/') cs with
  | some (front, '@', rest) => do
    let user ← partOf "user" (front.takeWhile (· != ':'))
    let password ← partOf "password" ((front.dropWhile (· != ':')).drop 1)
    return (user ++ password, rest)
  | _ => .ok ([], cs)

def readParts (uri : String) (cs : List Char) : Except BadConnectionText (List (String × String)) := do
  let (userOptions, rest) ← userParts cs
  let (hosts, ports, rest) ← hostParts uri (rest.length + 1) rest
  let host ← partOf "host" hosts
  let port ← partOf "port" ports
  let (name, query) := match rest with
    | '/' :: rest => (rest.takeWhile (· != '?'), rest.dropWhile (· != '?'))
    | rest => ([], rest)
  let database ← partOf "dbname" name
  let items ← queryItems (query.drop 1)
  return userOptions ++ host ++ port ++ database ++ items

def fronts : List String := ["postgresql://", "postgres://"]

def parts? (s : String) : Option (List Char) :=
  fronts.findSome? fun front => dropFront? front.toList s.toList

end ConnectionUri

/-- The options of a connection text, which ends at a zero character. Of two texts for one option the later holds. -/
def ServerTexts.ofText (s : String) : Except BadConnectionText ServerTexts := do
  let s := String.ofList (s.toList.takeWhile (· != '\x00'))
  let options ← match ConnectionUri.parts? s with
    | some parts => ConnectionUri.readParts s parts
    | none => ConnectionText.read s
  return Named.setAll [] options

example : (ServerTexts.ofText "postgres://u:p%20@[::1]:1,h/d?sslmode=disable&ssl=true").toOption =
    some [("user", "u"), ("password", "p "), ("host", "::1,h"), ("port", "1,"), ("dbname", "d"), ("sslmode", "require")] := by
  decide +kernel

example : (["postgres://[::1]x", "postgres://?a=b=c", "postgres://?a", "postgres://%0", "postgres://a b",
    "postgres://?a=b"].map fun s => match ServerTexts.ofText s with
    | .error bad => some bad
    | .ok _ => none) =
    [.unexpected 'x' 17 "postgres://[::1]x", .secondEquals "a", .noItemEquals "a", .badPercent "%0", .spaces "a b",
      .unknownInUri "a"].map some := by decide +kernel

end Retention.Database
