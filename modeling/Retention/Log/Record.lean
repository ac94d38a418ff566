import Retention.Log.Level
import Retention.Value.Basic

/-! # Records

A log record is an event at a level with named fields. The event is a text as a rule.
-/

namespace Retention.Log

abbrev Fields := List (String × Value)

structure Record where
  level : Level
  event : Value
  fields : Fields
  deriving Repr

namespace Record

def debug (event : String) (fields : Fields) : Record := ⟨.debug, event, fields⟩

def info (event : String) (fields : Fields) : Record := ⟨.info, event, fields⟩

def warning (event : String) (fields : Fields) : Record := ⟨.warning, event, fields⟩

def error (event : String) (fields : Fields) : Record := ⟨.error, event, fields⟩

def field? (r : Record) (name : String) : Option Value :=
  (r.fields.find? (·.1 == name)).map (·.2)

end Record

/-- What goes wrong with writing a record, for records that cannot be written. -/
abbrev Refusals := Record → Option Mishap

def Refusals.none : Refusals := fun _ => .none

end Retention.Log
