import Retention.Text.Front
import Retention.Text.Percent
import Retention.Text.Word
import Retention.Value.Whole

/-! # Parts of a database URL

A URL is a scheme of word characters and plus signs, a user name and password before an at sign, a host and port, a
database and a query, which ends with its line. All but host and port are percent-decoded, and what stands behind these
parts is ignored.
-/

namespace Retention.Database

open Text

structure Locator where
  scheme : List Char
  user : Option String
  password : Option String
  host : Option String
  port : Option Int
  database : Option String
  query : List (String × String)
  deriving DecidableEq, Repr

inductive BadUrl where
  | unparsable
  | badPort (reason : Unwhole)
  deriving DecidableEq, Repr

namespace Locator

def isSchemeChar (c : Char) : Bool :=
  isWord c || c == '+'

def splitLast? (c : Char) (cs : List Char) : Option (List Char × List Char) :=
  match cutAt? (· == c) cs.reverse with
  | some (after, _, before) => some (before.reverse, after.reverse)
  | none => none

def decoded (cs : List Char) : String :=
  Percent.decode (String.ofList cs)

/-- User name and password, and the rest. The password ends at the first at sign, a lone user name at the last one before
a colon or slash. -/
def userInfo (cs : List Char) : Option String × Option String × List Char :=
  let isEnd (c : Char) := c == ':' || c == '/'
  let front := cs.takeWhile fun c => !isEnd c
  let back := cs.dropWhile fun c => !isEnd c
  let alone : Option String × Option String × List Char :=
    match splitLast? '@' front with
    | some (user, host) => (some (decoded user), none, host ++ back)
    | none => (none, none, cs)
  match back with
  | ':' :: rest =>
    match cutAt? (· == '@') rest with
    | some (password, _, after) => (some (decoded front), some (decoded password), after)
    | none => alone
  | _ => alone

/-- The characters before the first of some kinds, if there are any, and the rest. -/
def run? (isEnd : Char → Bool) (cs : List Char) : Option String × List Char :=
  let front := cs.takeWhile fun c => !isEnd c
  (if front.isEmpty then none else some (String.ofList front), cs.dropWhile fun c => !isEnd c)

def hostPart (cs : List Char) : Option String × List Char :=
  let isEnd (c : Char) := c == '/' || c == '?'
  let plain := run? (fun c => isEnd c || c == ':') cs
  match cs with
  | '[' :: rest =>
    match splitLast? ']' (rest.takeWhile fun c => !isEnd c) with
    | some (address, after) =>
      if address.isEmpty then plain
      else (some (String.ofList address), after ++ rest.dropWhile fun c => !isEnd c)
    | none => plain
  | _ => plain

def portPart (cs : List Char) : Option (List Char) × List Char :=
  match cs with
  | ':' :: rest =>
    let isEnd (c : Char) := c == '/' || c == '?'
    (some (rest.takeWhile fun c => !isEnd c), rest.dropWhile fun c => !isEnd c)
  | _ => (none, cs)

def databasePart (cs : List Char) : Option String × List Char :=
  match cs with
  | '/' :: rest => (some (decoded (rest.takeWhile (· != '?'))), rest.dropWhile (· != '?'))
  | _ => (none, cs)

/-- A plus sign stands for a space. -/
def formDecoded (cs : List Char) : String :=
  decoded (cs.map fun c => if c = '+' then ' ' else c)

/-- Names and values after a question mark, up to the end of the line; those without a value are dropped. -/
def queryPart (cs : List Char) : List (String × String) :=
  match cs with
  | '?' :: rest =>
    (splitOn '&' (rest.takeWhile (· != '\n'))).filterMap fun item =>
      match cutAt? (· == '=') item with
      | some (name, _, value) => if value.isEmpty then none else some (formDecoded name, formDecoded value)
      | none => none
  | _ => []

def parsePort : Option (List Char) → Except BadUrl (Option Int)
  | none => .ok none
  | some cs => ((Value.text (String.ofList cs)).toWhole.mapError .badPort).map some

def parse (url : String) : Except BadUrl Locator := do
  let scheme := url.toList.takeWhile isSchemeChar
  match scheme, url.toList.dropWhile isSchemeChar with
  | _ :: _, ':' :: '/' :: '/' :: rest =>
    let (user, password, rest) := userInfo rest
    let (host, rest) := hostPart rest
    let (port, rest) := portPart rest
    let port ← parsePort port
    let (database, rest) := databasePart rest
    return { scheme, user, password, host, port, database, query := queryPart rest }
  | _, _ => throw .unparsable

def values (l : Locator) (name : String) : List String :=
  (l.query.filter (·.1 == name)).map (·.2)

def valuesText : List String → String
  | [s] => s
  | values => "(" ++ ", ".intercalate (values.map Quoted.text) ++ ")"

/-- Several values of one name are no real number. -/
def severalReals : Mishap :=
  ⟨.type, "float() argument must be a string or a real number, not 'tuple'"⟩

def names (l : Locator) : List String :=
  (l.query.map (·.1)).eraseDups

def queryNames (l : Locator) : List String :=
  l.names.mergeSort fun a b => decide (a ≤ b)

def without (l : Locator) (names : List String) : Locator :=
  { l with query := l.query.filter fun q => !names.contains q.1 }

/-- Percent-encoding with plus signs for spaces. -/
def formEncode (s : String) : String :=
  String.ofList ((Percent.encodeKeeping [' '] s).toList.map fun c => if c = ' ' then '+' else c)

/-- The text of a URL with its password hidden and the names of its query sorted. -/
def hiddenText (l : Locator) : String :=
  let password := if l.password.isSome then ":***" else ""
  let user := (l.user.map fun u => Percent.encodeKeeping [' ', '+'] u ++ password ++ "@").getD ""
  let host := (l.host.map fun h => if h.toList.contains ':' then "[" ++ h ++ "]" else h).getD ""
  let port := (l.port.map fun p => ":" ++ toString p).getD ""
  let database := (l.database.map fun d => "/" ++ Percent.encodeKeeping [' ', '+', '/'] d).getD ""
  let items := l.queryNames.flatMap fun name => (l.values name).map fun value => formEncode name ++ "=" ++ formEncode value
  let query := if items.isEmpty then "" else "?" ++ "&".intercalate items
  String.ofList l.scheme ++ "://" ++ user ++ host ++ port ++ database ++ query

end Locator
end Retention.Database
