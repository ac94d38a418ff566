import Retention.Number.DecimalSum
import Retention.Number.Rounded

/-! # Quantities

A quantity is a whole number, a double or a decimal number. In a sum a whole number turns into what the other one is, and
doubles and decimal numbers have none.
-/

namespace Retention

inductive Quantity where
  | whole (n : Int)
  | real (x : Binary64)
  | decimal (d : Decimal)
  deriving DecidableEq, Repr

namespace Quantity

def toValue : Quantity → Value
  | .whole n => .int n
  | .real x => .float x
  | .decimal d => .decimal d

instance : OfNat Quantity 0 := ⟨.whole 0⟩

/-- A whole number that no double is near to has no sum with a double. -/
def tooLarge : Mishap :=
  ⟨.overflow, "int too large to convert to float"⟩

def unsupported (left right : String) : Mishap :=
  ⟨.type, "unsupported operand type(s) for +=: '" ++ left ++ "' and '" ++ right ++ "'"⟩

def add (a b : Quantity) : Except Mishap Quantity :=
  let double (n : Int) : Except Mishap Binary64 := (Binary64.ofInt? n).elim (.error tooLarge) .ok
  let exact (n : Int) : Decimal := .finite (n < 0) n.natAbs 0
  match a, b with
  | .whole m, .whole n => .ok (.whole (m + n))
  | .whole m, .real y => do return .real ((← double m).add y)
  | .whole m, .decimal e => do return .decimal (← (exact m).add e)
  | .real x, .whole n => do return .real (x.add (← double n))
  | .real x, .real y => .ok (.real (x.add y))
  | .real x, .decimal d => .error (unsupported (Value.float x).typeName (Value.decimal d).typeName)
  | .decimal d, .whole n => do return .decimal (← d.add (exact n))
  | .decimal d, .real x => .error (unsupported (Value.decimal d).typeName (Value.float x).typeName)
  | .decimal d, .decimal e => do return .decimal (← d.add e)

theorem add_whole (m n : Int) : add (.whole m) (.whole n) = .ok (.whole (m + n)) := rfl

end Quantity
end Retention
