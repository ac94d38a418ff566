import Retention.Calendar.Iso
import Retention.Log.Library
import Retention.Text.Numeral
import Retention.Value.Json

/-! # Layout of records

The usual library writes a record as a JSON object on one line or in columns. Before any configuration it writes columns with a
stamp to the second.
-/

namespace Retention.Log

open Calendar Text

/-- The fields with stamp and level and without the marks of errors and stacks; the stack takes the place of its mark. -/
def stamped (stack stamp : String) (level : Level) (fields : Fields) : Fields :=
  let fields := setField (setField fields "timestamp" (.text stamp)) "level" (.text level.word)
  let isMarked := (fields.find? (·.1 == "stack_info")).any (·.2.holds)
  let fields := fields.filter fun f => f.1 != "exc_info" && f.1 != "stack_info"
  if isMarked then setField fields "stack" (.text stack) else fields

def padRight (width : Nat) (t : Loose) : Loose :=
  t ++ String.ofList (List.replicate (width - t.symbols.length) ' ')

/-- The characters that make a text need quotes between columns. -/
def needsQuotes (c : Char) : Bool :=
  c == ' ' || c == '\t' || c == '=' || c == '\r' || c == '\n' || c == '\x22' || c == '\x27'

def columnValue : Value → Loose
  | .text s => if s.toList.any needsQuotes then Quoted.text s else s
  | .loose t => if t.symbols.any (needsQuotes ·.face) then Quoted.loose t else t
  | v => v.literal

def pairColumn (field : String × Value) : Loose :=
  field.1 ++ "=" ++ columnValue field.2

def ownValue : Value → Loose
  | .loose t => t
  | v => v.plain

/-- The fields that have columns of their own, and those that follow the line. -/
def ownColumns : List String :=
  ["", "timestamp", "level", "event", "logger", "logger_name", "stack", "exception"]

def column? (fields : Fields) (name : String) (layout : Loose → Loose) : List Loose :=
  match fields.find? (·.1 == name) with
  | some (_, v) => [layout (ownValue v)]
  | none => []

def bracketed (t : Loose) : Loose :=
  "[" ++ t ++ "]"

def trimSpaces (t : Loose) : Loose :=
  ⟨(t.symbols.reverse.dropWhile (· == .char ' ')).reverse⟩

def spaced (columns : List Loose) : Loose :=
  ⟨[.char ' '].intercalate (columns.map Loose.symbols)⟩

/-- The text of a field that follows the line, unless it is null; no other value can. -/
def following? (fields : Fields) (name : String) : Except Mishap (Option Loose) :=
  match fields.find? (·.1 == name) with
  | none | some (_, .null) => .ok none
  | some (_, .text s) => .ok (some s)
  | some (_, .loose t) => .ok (some t)
  | some (_, v) => .error ⟨.type, "can only concatenate str (not \x22" ++ v.typeName ++ "\x22) to str"⟩

def rule : Loose :=
  "\n\n" ++ String.ofList (List.replicate 79 '=') ++ "\n"

/-- Stack and exception on lines of their own. A rule follows the stack if an exception is there or announced. -/
def trailer (announced : Bool) (fields : Fields) : Except Mishap Loose := do
  let stack ← following? fields "stack"
  let error ← following? fields "exception"
  let line (t : Loose) : Loose := "\n" ++ t
  let rule := if announced || error.isSome then rule else ""
  return ((stack.map fun t => line t ++ rule).getD "") ++ (error.map line).getD ""

/-- The field without a name, stamp, level, event and logger in columns, then the other fields sorted by name. -/
def consoleColumns (fields : Fields) : List Loose :=
  let own := column? fields "timestamp" id ++ column? fields "level" (fun l => bracketed (padRight 9 l)) ++
    column? fields "event" (padRight 30) ++ column? fields "logger" bracketed ++ column? fields "logger_name" bracketed
  let others := (fields.filter fun f => !ownColumns.contains f.1).mergeSort fun a b => decide (a.1 ≤ b.1)
  (fields.filter (·.1 == "")).map pairColumn ++ own ++ others.map pairColumn

mutual

/-- The value holds an integer of more digits than are written. -/
def isOverlong : Value → Bool
  | .int n => Nat.pow 10 Numeral.digitLimit ≤ n.natAbs
  | .list items => areOverlong items
  | .map entries => entriesAreOverlong entries
  | _ => false

def areOverlong : List Value → Bool
  | [] => false
  | v :: rest => isOverlong v || areOverlong rest

def entriesAreOverlong : List (String × Value) → Bool
  | [] => false
  | (_, v) :: rest => isOverlong v || entriesAreOverlong rest

end

def refuseOverlong (fields : Fields) : Except Mishap Unit :=
  if entriesAreOverlong fields then
    .error ⟨.value, "Exceeds the limit (" ++ toString Numeral.digitLimit ++
      " digits) for integer string conversion; use sys.set_int_max_str_digits() to increase the limit"⟩
  else .ok ()

/-- The columns on one line, and what follows it. It is printed in UTF-8. -/
def consoleLine (announced : Bool) (fields : Fields) : Except Mishap String := do
  refuseOverlong (fields.filter fun f => f.1 != "stack" && f.1 != "exception")
  let line := trimSpaces (spaced (consoleColumns fields)) ++ (← trailer announced fields)
  line.plain.mapError fun u => ⟨.encoding, u.message⟩

def jsonLine (fields : Fields) : Except Mishap String := do
  refuseOverlong fields
  return Value.jsonObject fields

def announcesError (r : Record) : Bool :=
  (r.field? "exc_info").any Value.holds

/-- The callees of a call whose level is let through or not, with the names of their parameters. -/
def callees (enabled : Bool) : List (String × List String) :=
  if enabled then
    [("_make_filtering_bound_logger.<locals>.make_method.<locals>.meth", ["self", "event"]),
      ("BoundLoggerBase._proxy_to_logger", ["method_name"])]
  else [("_nop", ["self", "event"])]

def takenName? (names : List String) (callee : String × List String) : Option Mishap :=
  (names.find? callee.2.contains).map fun name =>
    ⟨.type, callee.1 ++ "() got multiple values for argument '" ++ name ++ "'"⟩

/-- The usual library, where calls have the given stack. -/
def Library.usual (stack : String) : Library where
  objection? enabled names := (callees enabled).findSome? (takenName? names)
  line format now level fields :=
    let fields := stamped stack now.stamp level fields
    match format with
    | .json => jsonLine fields
    | .console => consoleLine false fields
  bareLine now r := consoleLine (announcesError r) (stamped stack now.shortStamp r.level (withEvent r))

end Retention.Log
