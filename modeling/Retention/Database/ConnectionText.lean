import Retention.Database.ServerOption
import Retention.Text.Blank

/-! # Connection texts

A connection text names options and their texts around equals signs. A text with blanks stands in quotes, and a backslash
takes the next character as it is. Options are looked up as they are read, so the first flaw is the one that counts.
-/

namespace Retention.Database

open Text

inductive BadConnectionText where
  | noEquals (name : String)
  | noEndQuote
  | unknown (name : String)
  | noEndBracket (uri : String)
  | noAddress (uri : String)
  | unexpected (c : Char) (position : Nat) (uri : String)
  | secondEquals (name : String)
  | noItemEquals (item : String)
  | unknownInUri (name : String)
  | badPercent (text : String)
  | zeroByte (text : String)
  | spaces (text : String)
  deriving DecidableEq, Repr

namespace BadConnectionText

def text : BadConnectionText → String
  | .noEquals name => "missing \"=\" after \"" ++ name ++ "\" in connection info string"
  | .noEndQuote => "unterminated quoted string in connection info string"
  | .unknown name => "invalid connection option \"" ++ name ++ "\""
  | .noEndBracket uri =>
    "end of string reached when looking for matching \"]\" in IPv6 host address in URI: \"" ++ uri ++ "\""
  | .noAddress uri => "IPv6 host address may not be empty in URI: \"" ++ uri ++ "\""
  | .unexpected c position uri => "unexpected character \"" ++ c.toString ++ "\" at position " ++ toString position ++
      " in URI (expected \":\" or \"/\"): \"" ++ uri ++ "\""
  | .secondEquals name => "extra key/value separator \"=\" in URI query parameter: \"" ++ name ++ "\""
  | .noItemEquals item => "missing key/value separator \"=\" in URI query parameter: \"" ++ item ++ "\""
  | .unknownInUri name => "invalid URI query parameter: \"" ++ name ++ "\""
  | .badPercent text => "invalid percent-encoded token: \"" ++ text ++ "\""
  | .zeroByte text => "forbidden value %00 in percent-encoded value: \"" ++ text ++ "\""
  | .spaces text => "unexpected spaces found in \"" ++ text ++ "\", use percent-encoded spaces (%20) instead"

/-- The message ends its line. -/
def message (bad : BadConnectionText) : String :=
  bad.text ++ "\n"

end BadConnectionText

namespace ConnectionText

/-! ## Writing -/

def escaped (cs : List Char) : List Char :=
  cs.flatMap fun c => if c = '\\' ∨ c = '\'' then ['\\', c] else [c]

def textOf (s : String) : String :=
  let cs := escaped s.toList
  if cs.isEmpty then "''"
  else if cs.any isSpacing then "'" ++ String.ofList cs ++ "'"
  else String.ofList cs

/-- Names are written as they are. -/
def write (texts : ServerTexts) : String :=
  " ".intercalate (texts.map fun (name, text) => name ++ "=" ++ textOf text)

/-! ## Reading -/

/-- Where a reader stands. Characters that were read stand in reverse. -/
inductive Position where
  | between
  | name (read : List Char)
  | behindName (name : String)
  | beforeText (name : String)
  | plain (name : String) (read : List Char)
  | plainMark (name : String) (read : List Char)
  | quoted (name : String) (read : List Char)
  | quotedMark (name : String) (read : List Char)

def ofReverse (read : List Char) : String :=
  String.ofList read.reverse

/-- An old option, and the one that replaces it. -/
def oldEncryption : String := "requiressl"

def known? (name text : String) : Option (String × String) :=
  if name = oldEncryption then some ("sslmode", if text.toList.head? = some '1' then "require" else "prefer")
  else (ServerOption.named? name).map fun option => (option.name, text)

def stored (name text : String) : Except BadConnectionText (String × String) :=
  (known? name text).elim (.error (.unknown name)) .ok

/-- What a character brings: the position behind it, and the option that it ends. -/
def step (c : Char) : Position → Except BadConnectionText (Position × Option (String × String))
  | .between =>
    if isAsciiBlank c then .ok (.between, none)
    else if c = '=' then .ok (.beforeText "", none)
    else .ok (.name [c], none)
  | .name read =>
    if c = '=' then .ok (.beforeText (ofReverse read), none)
    else if isAsciiBlank c then .ok (.behindName (ofReverse read), none)
    else .ok (.name (c :: read), none)
  | .behindName name =>
    if isAsciiBlank c then .ok (.behindName name, none)
    else if c = '=' then .ok (.beforeText name, none)
    else .error (.noEquals name)
  | .beforeText name =>
    if isAsciiBlank c then .ok (.beforeText name, none)
    else if c = '\'' then .ok (.quoted name [], none)
    else if c = '\\' then .ok (.plainMark name [], none)
    else .ok (.plain name [c], none)
  | .plain name read =>
    if isAsciiBlank c then (stored name (ofReverse read)).map fun option => (.between, some option)
    else if c = '\\' then .ok (.plainMark name read, none)
    else .ok (.plain name (c :: read), none)
  | .plainMark name read => .ok (.plain name (c :: read), none)
  | .quoted name read =>
    if c = '\'' then (stored name (ofReverse read)).map fun option => (.between, some option)
    else if c = '\\' then .ok (.quotedMark name read, none)
    else .ok (.quoted name (c :: read), none)
  | .quotedMark name read => .ok (.quoted name (c :: read), none)

def finish : Position → Except BadConnectionText (Option (String × String))
  | .between => .ok none
  | .name read => .error (.noEquals (ofReverse read))
  | .behindName name => .error (.noEquals name)
  | .beforeText name => (stored name "").map some
  | .plain name read | .plainMark name read => (stored name (ofReverse read)).map some
  | .quoted .. | .quotedMark .. => .error .noEndQuote

def readFrom (position : Position) : List Char → Except BadConnectionText (List (String × String))
  | [] => (finish position).map Option.toList
  | c :: cs => do
    let (position, option) ← step c position
    return option.toList ++ (← readFrom position cs)

def read (s : String) : Except BadConnectionText (List (String × String)) :=
  readFrom .between s.toList

example : (read "host = a\\ b port='\\'' user=").toOption = some [("host", "a b"), ("port", "'"), ("user", "")] := by
  decide +kernel

example : ([read "a b=1", read "x=1 y", read "host='"].map fun r => match r with
    | .error bad => some bad
    | .ok _ => none) = [some (.noEquals "a"), some (.unknown "x"), some .noEndQuote] := by decide +kernel

end ConnectionText
end Retention.Database
