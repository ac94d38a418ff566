import Retention.Calendar.Moment
import Retention.Fault
import Retention.Log.Key
import Retention.Log.Record
import Retention.Log.Redaction

/-! # The library that writes records

Records are redacted here and written by a library. It may object to a call for the names of its fields, and it may fail to
make a line.
-/

namespace Retention.Log

open Calendar

inductive Format where
  | json
  | console
  deriving DecidableEq, Repr

/-- Sets a field; a field keeps its place. -/
def setField (fields : Fields) (name : String) (value : Value) : Fields :=
  put (· == ·) name value fields

/-- The fields with the event, which comes last; null is no event. -/
def withEvent (r : Record) : Fields :=
  match r.event with
  | .null => r.fields
  | event => setField r.fields "event" event

/-- What a record shows of itself: the names of its fields, its level, and its fields with the event after redaction. -/
structure Shown where
  names : List String
  level : Level
  fields : Fields

def Record.shown (r : Record) : Shown :=
  ⟨r.fields.map (·.1), r.level, redactFields (withEvent r)⟩

/-- A library that writes records. It is told whether a call is let through when it looks at the names of the fields. -/
structure Library where
  objection? (enabled : Bool) (names : List String) : Option Mishap
  line (format : Format) (now : Moment) (level : Level) (fields : Fields) : Except Mishap String
  bareLine (now : Moment) (r : Record) : Except Mishap String

end Retention.Log
