import Retention.Calendar.Iso
import Retention.Number.Shortest
import Retention.Text.Quoted
import Retention.Value.Basic

/-! # Literals of values

The text of a value as a literal: quoted text, shortest decimals, bracketed lists and maps.
-/

namespace Retention

open Calendar Text

/-- Parts of a span that are not zero, by name. -/
private def spanParts (parts : List (String × Int)) : String :=
  let given := (parts.filter fun p => p.2 != 0).map fun (name, n) => name ++ "=" ++ toString n
  if given.isEmpty then "0" else ", ".intercalate given

namespace Calendar

/-- Universal time by its name, other offsets by whole days, seconds and millionths. -/
def Offset.literal (o : Offset) : String :=
  if o.micros = 0 then "datetime.timezone.utc"
  else
    let days := o.micros.fdiv microsPerDay
    let rest := o.micros - days * microsPerDay
    "datetime.timezone(datetime.timedelta(" ++
      spanParts [("days", days), ("seconds", rest / microsPerSecond), ("microseconds", rest % microsPerSecond)] ++ "))"

def Date.fields (d : Date) : List Nat :=
  [d.year, d.month, d.day]

/-- Seconds and millionths are left out when zero, from the end. -/
def TimeOfDay.fields (t : TimeOfDay) : List Nat :=
  let fine :=
    if t.microsecond.val ≠ 0 then [t.second.val, t.microsecond.val]
    else if t.second.val ≠ 0 then [t.second.val]
    else []
  t.hour.val :: t.minute.val :: fine

def Date.literal (d : Date) : String :=
  "datetime.date(" ++ ", ".intercalate (d.fields.map toString) ++ ")"

def Moment.literal (m : Moment) : String :=
  let zone := (m.offset.map fun o => ", tzinfo=" ++ o.literal).getD ""
  "datetime.datetime(" ++ ", ".intercalate ((m.date.fields ++ m.time.fields).map toString) ++ zone ++ ")"

end Calendar

namespace Value

mutual

def literal : Value → String
  | .null => "None"
  | .bool b => if b then "True" else "False"
  | .int n => toString n
  | .float x => x.toText
  | .text s => Quoted.text s
  | .loose t => Quoted.loose t
  | .bytes bs => Quoted.bytes bs
  | .decimal d => "Decimal('" ++ d.toText ++ "')"
  | .date d => d.literal
  | .moment m => m.literal
  | .list items => "[" ++ ", ".intercalate (literals items) ++ "]"
  | .map entries => "\x7b" ++ ", ".intercalate (entryLiterals entries) ++ "\x7d"

def literals : List Value → List String
  | [] => []
  | v :: rest => v.literal :: literals rest

def entryLiterals : List (String × Value) → List String
  | [] => []
  | (k, v) :: rest => (Quoted.text k ++ ": " ++ v.literal) :: entryLiterals rest

end

/-- The text of a value on its own: text, numbers and dates without quotes. -/
def plain : Value → String
  | .text s => s
  | .loose t => t.faces
  | .decimal d => d.toText
  | .date d => d.toText
  | .moment m => m.spacedText
  | v => v.literal

end Value
end Retention
