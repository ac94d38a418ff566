import Retention.Fault
import Retention.Text.Quoted
import Retention.Value.Basic

/-! # Levels

Log levels have names and numbers. A threshold is given by a name, a number or a truth value.
-/

namespace Retention.Log

open Text

inductive Level where
  | notset
  | debug
  | info
  | warning
  | error
  | critical
  deriving DecidableEq, Repr

namespace Level

def all : List Level :=
  [.notset, .debug, .info, .warning, .error, .critical]

def number : Level → Int
  | .notset => 0
  | .debug => 10
  | .info => 20
  | .warning => 30
  | .error => 40
  | .critical => 50

def word : Level → String
  | .notset => "notset"
  | .debug => "debug"
  | .info => "info"
  | .warning => "warning"
  | .error => "error"
  | .critical => "critical"

def ofName? : String → Option Level
  | "CRITICAL" | "FATAL" => some .critical
  | "ERROR" => some .error
  | "WARNING" | "WARN" => some .warning
  | "INFO" => some .info
  | "DEBUG" => some .debug
  | "NOTSET" => some .notset
  | _ => none

def ofNumber? (n : Int) : Option Level :=
  all.find? fun l => l.number == n

/-- Upper case as far as it can spell a name: beyond ASCII only the dotless i and the long s give a letter of one. -/
def upperChar (c : Char) : Char :=
  if c = 'ı' then 'I' else if c = 'ſ' then 'S' else c.toUpper

def ofText? (s : String) : Option Level :=
  ofName? (String.ofList ((trim isSpacing s.toList).map upperChar))

end Level

/-- A threshold as it was given: a number, or a truth value that counts as zero or one. -/
inductive Threshold where
  | number (n : Int)
  | flag (b : Bool)
  deriving DecidableEq, Repr

namespace Threshold

def rank : Threshold → Int
  | .number n => n
  | .flag b => if b then 1 else 0

def literal : Threshold → String
  | .number n => toString n
  | .flag b => if b then "True" else "False"

end Threshold

inductive BadLevel where
  | unknown (given : Loose)
  | notText (typeName : String)
  deriving DecidableEq, Repr

def BadLevel.message : BadLevel → Loose
  | .unknown given => "Unknown log level: " ++ given
  | .notText typeName => "'" ++ typeName ++ "' object has no attribute 'strip'"

def BadLevel.toMishap (b : BadLevel) : Mishap :=
  match b with
  | .unknown _ => ⟨.value, b.message.faces⟩
  | .notText _ => ⟨.attribute, b.message.faces⟩

/-- The threshold that a level name gives; no name holds a surrogate. -/
def parseLevelName (t : Loose) : Except BadLevel Threshold :=
  match t.plain.toOption.bind Level.ofText? with
  | some l => .ok (.number l.number)
  | none => .error (.unknown t)

/-- The threshold that a value gives; bytes can be trimmed, but name no level. -/
def parseLevel : Value → Except BadLevel Threshold
  | .bool b => .ok (.flag b)
  | .int n => .ok (.number n)
  | .text s => parseLevelName s
  | .loose t => parseLevelName t
  | .bytes bs => .error (.unknown (Quoted.bytes bs))
  | v => .error (.notText v.typeName)

end Retention.Log
