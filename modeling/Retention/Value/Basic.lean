import Retention.Calendar.Moment
import Retention.Number.Binary64
import Retention.Number.Decimal
import Retention.Text.Loose

/-! # Values

The values that settings, log fields, driver results and statistics rows hold.
-/

namespace Retention

open Calendar

/-- A value; a map keeps the order of its entries. A text that cannot be encoded is a loose one. -/
inductive Value where
  | null
  | bool (b : Bool)
  | int (n : Int)
  | float (x : Binary64)
  | text (s : String)
  | loose (t : Text.Loose)
  | bytes (bs : List UInt8)
  | decimal (d : Decimal)
  | date (d : Date)
  | moment (m : Moment)
  | list (items : List Value)
  | map (entries : List (String × Value))
  deriving Repr

namespace Value

/-- The value of a loose text, which is a plain one if all of it are characters. -/
def ofLoose (t : Text.Loose) : Value :=
  match t.plain with
  | .ok s => .text s
  | .error _ => .loose t

def typeName : Value → String
  | .null => "NoneType"
  | .bool _ => "bool"
  | .int _ => "int"
  | .float _ => "float"
  | .text _ | .loose _ => "str"
  | .bytes _ => "bytes"
  | .decimal _ => "decimal.Decimal"
  | .date _ => "datetime.date"
  | .moment _ => "datetime.datetime"
  | .list _ => "list"
  | .map _ => "dict"

def shortTypeName : Value → String
  | .decimal _ => "Decimal"
  | .date _ => "date"
  | .moment _ => "datetime"
  | v => v.typeName

/-- Everything holds except null, false, zeros and the empty. -/
def holds : Value → Bool
  | .null => false
  | .bool b => b
  | .int n => n != 0
  | .float x => !x.isZero
  | .text s => !s.isEmpty
  | .loose t => !t.isEmpty
  | .bytes bs => !bs.isEmpty
  | .decimal d => !d.isZero
  | .date _ | .moment _ => true
  | .list items => !items.isEmpty
  | .map entries => !entries.isEmpty

/-- The integer that a number is; a Boolean counts as zero or one. -/
def toInt? : Value → Option Int
  | .bool b => some (if b then 1 else 0)
  | .int n => some n
  | .float x => x.toInt?
  | .decimal d => d.toInt?
  | _ => none

/-- The items of a value that has some: the characters of a text, the numbers of bytes and the names of a map. -/
def items? : Value → Option (List Value)
  | .text s => some (s.toList.map fun c => .text c.toString)
  | .loose t => some (t.symbols.map fun s => ofLoose ⟨[s]⟩)
  | .bytes bs => some (bs.map fun b => .int b.toNat)
  | .list items => some items
  | .map entries => some (entries.map fun e => .text e.1)
  | _ => none

end Value

instance : Coe String Value := ⟨Value.text⟩

instance : Coe Text.Loose Value := ⟨Value.ofLoose⟩

end Retention
