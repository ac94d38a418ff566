import Retention.Database.HostList
import Retention.Database.ServerOption
import Retention.Text.Blank
import Retention.Text.Numeral

/-! # Checks of server options

Options that hold for a connection are checked in a fixed order before any address is looked at, and the first that fails is
reported. Texts of options are words of a choice, lists of methods, names of versions and encoded keys.
-/

namespace Retention.Database

open Text

abbrev ServerValues := String → Option String

namespace ServerCheck

def badValue (name text : String) : String :=
  "invalid " ++ name ++ " value: \"" ++ text ++ "\""

/-- An option that holds one of some words, or nothing. -/
def choice (values : ServerValues) (name : String) (words : List String) : Option String :=
  (values name).bind fun text => if words.contains text then none else some (badValue name text)

/-! ## Methods of authentication -/

def methods : List String :=
  ["password", "md5", "gss", "sspi", "scram-sha-256", "oauth", "none"]

/-- A method may be excluded by a mark. -/
def methodOf (item : String) : Bool × String :=
  match item.toList with
  | '!' :: rest => (true, String.ofList rest)
  | _ => (false, item)

/-- What is wrong with further methods in a list that excludes methods, or does not. -/
def methodsError? (excludes : Bool) : (seen : List String) → List String → Option String
  | _, [] => none
  | seen, item :: rest =>
    let (isExcluded, method) := methodOf item
    if isExcluded && !excludes then
      some ("negative require_auth method \"" ++ item ++ "\" cannot be mixed with non-negative methods")
    else if !isExcluded && excludes then
      some ("require_auth method \"" ++ item ++ "\" cannot be mixed with negative methods")
    else if !methods.contains method then some (badValue "require_auth" method)
    else if seen.contains method then some ("require_auth method \"" ++ item ++ "\" is specified more than once")
    else methodsError? excludes (method :: seen) rest

/-- The first method of a list decides whether the list excludes methods. -/
def methodList (values : ServerValues) : Option String :=
  (values "require_auth").bind fun text =>
    let items := HostList.split ',' text
    if text.isEmpty then none else methodsError? (items.head?.any fun item => (methodOf item).1) [] items

/-! ## Encryption -/

def mode (values : ServerValues) : String :=
  (values "sslmode").getD ""

/-- Encryption from the start needs a mode that insists on it. -/
def negotiation (values : ServerValues) : Option String :=
  let insists := ['r', 'v'].any fun c => (mode values).toList.head? = some c
  if (values "sslnegotiation").any (fun text => text.toList.head? = some 'd') && !insists then
    some ("weak sslmode \"" ++ mode values ++
      "\" may not be used with sslnegotiation=direct (use \"require\", \"verify-ca\", or \"verify-full\")")
  else none

/-- The certificates of the system need the strictest mode. -/
def rootCertificates (values : ServerValues) : Option String :=
  if values "sslrootcert" = some "system" ∧ mode values ≠ "verify-full" then
    some ("weak sslmode \"" ++ mode values ++ "\" may not be used with sslrootcert=system (use \"verify-full\")")
  else none

def encryptionVersions : List String :=
  ["tlsv1", "tlsv1.1", "tlsv1.2", "tlsv1.3"]

def versionPlace? (values : ServerValues) (name : String) : Option Nat :=
  (values name).bind fun text => encryptionVersions.idxOf? text.toLower

def encryptionVersion (values : ServerValues) (name : String) : Option String :=
  (values name).bind fun text =>
    if text.isEmpty || (versionPlace? values name).isSome then none
    else some ("invalid \"" ++ name ++ "\" value: \"" ++ text ++ "\"")

def encryptionRange (values : ServerValues) : Option String :=
  match versionPlace? values "ssl_min_protocol_version", versionPlace? values "ssl_max_protocol_version" with
  | some low, some high => if high < low then some "invalid SSL protocol version range" else none
  | _, _ => none

/-! ## Keys -/

def isKeyChar (c : Char) : Bool :=
  ('a' ≤ c && c ≤ 'z') || ('A' ≤ c && c ≤ 'Z') || ('0' ≤ c && c ≤ '9') || c == '+' || c == '/'

/-- The number of bytes that characters in groups of four encode. Where padding starts in a group decides how many bytes this
and later groups hold. -/
def encodedSize? (place size : Nat) (short : Option Nat) : List Char → Option Nat
  | [] => if place = 0 then some size else none
  | c :: cs =>
    let short? := if c = '=' then short.or (if place = 2 ∨ place = 3 then some (place - 1) else none) else short
    if (c = '=' ∧ short?.isNone) ∨ (c ≠ '=' ∧ !isKeyChar c) then none
    else if place = 3 then encodedSize? 0 (size + short?.getD 3) short? cs
    else encodedSize? (place + 1) size short? cs

def keySize : Nat := 32

def key (values : ServerValues) (name owner : String) : Option String :=
  (values name).bind fun text =>
    match encodedSize? 0 0 none text.toList with
    | none => some ("invalid SCRAM " ++ owner ++ " key")
    | some size =>
      if size = keySize then none else some ("invalid SCRAM " ++ owner ++ " key length: " ++ toString size)

/-! ## Versions of the protocol -/

/-- The versions of the protocol; the last word stands for the latest. -/
def protocolVersions : List (String × Nat) :=
  [("3.0", 0), ("3.2", 2), ("latest", 2)]

def protocolVersion (values : ServerValues) (name : String) : Option String :=
  choice values name (protocolVersions.map (·.1))

def protocolNumber? (values : ServerValues) (name : String) : Option Nat :=
  (values name).bind fun text => (protocolVersions.find? (·.1 == text)).map (·.2)

/-- A least version alone leaves room above it. -/
def protocolRange (values : ServerValues) : Option String :=
  match protocolNumber? values "min_protocol_version", protocolNumber? values "max_protocol_version" with
  | some least, some greatest =>
    if greatest < least then some "\"min_protocol_version\" is greater than \"max_protocol_version\"" else none
  | _, _ => none

/-! ## Whole numbers -/

/-- Blanks, a sign, digits and blanks stand for a signed word of thirty-two bits. -/
def wordOf? (text : String) : Option Int :=
  let (minus, body) := Numeral.sign (text.toList.dropWhile isAsciiBlank)
  let isDigit (c : Char) := (asciiDigit? c).isSome
  let digits := body.takeWhile isDigit
  let n := Numeral.applySign minus (Numeral.value (digits.filterMap asciiDigit?))
  if digits.isEmpty || !(body.dropWhile isDigit).all isAsciiBlank then none
  else if -Nat.pow 2 31 ≤ n ∧ n < Nat.pow 2 31 then some n
  else none

def badNumber (name text : String) : String :=
  "invalid integer value \"" ++ text ++ "\" for connection option \"" ++ name ++ "\""

/-! ## All checks -/

def first? (values : ServerValues) : Option String :=
  [methodList values,
    choice values "channel_binding" ["disable", "prefer", "require"],
    choice values "sslmode" ["disable", "allow", "prefer", "require", "verify-ca", "verify-full"],
    choice values "sslnegotiation" ["postgres", "direct"],
    negotiation values,
    rootCertificates values,
    encryptionVersion values "ssl_min_protocol_version",
    encryptionVersion values "ssl_max_protocol_version",
    encryptionRange values,
    choice values "sslcertmode" ["disable", "allow", "require"],
    choice values "gssencmode" ["disable", "prefer", "require"],
    choice values "target_session_attrs" ["any", "read-write", "read-only", "primary", "standby", "prefer-standby"],
    key values "scram_client_key" "client",
    key values "scram_server_key" "server",
    choice values "load_balance_hosts" ["disable", "random"],
    protocolVersion values "min_protocol_version",
    protocolVersion values "max_protocol_version",
    protocolRange values].findSome? id

example : (["md5,!none", "!md5,none", "!!md5", "md5,oauth,md5", "none,md5"].map fun text =>
    (methodList fun _ => some text).isSome) = [true, true, true, true, false] := by decide +kernel

example : (["", "QUJD", "QUI=", "QQ==", "QUJ", "Q===", "QQ==QUJD"].map fun s => encodedSize? 0 0 none s.toList) =
    [some 0, some 3, some 2, some 1, none, none, some 2] := by decide +kernel

end ServerCheck
end Retention.Database
