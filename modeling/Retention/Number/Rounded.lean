import Retention.Number.Binary64
import Retention.Number.Decimal
import Retention.Number.Nearest

/-! # Nearest doubles

The double nearest to a quotient, to a decimal number and to a sum of doubles. A half goes to the even neighbour, and what
rounds beyond the greatest double is infinite.
-/

namespace Retention

namespace Binary64

/-- Numerator and denominator of a quotient in units of a power of two. -/
def inUnits (n d : Nat) (exponent : Int) : Nat × Nat :=
  (n * Nat.pow 2 (-exponent).toNat, d * Nat.pow 2 exponent.toNat)

/-- The exponent at which a quotient has fifty-three bits before the point, down to the least one. -/
def exponentFor (n d : Nat) : Int :=
  let guess : Int := (n.log2 : Int) - d.log2 - 52
  let (a, b) := inUnits n d guess
  max (if a / b < Nat.pow 2 52 then guess - 1 else guess) (-1074)

def ofQuotient (negative : Bool) (n d : Nat) : Binary64 :=
  if n = 0 then .finite negative 0 (-1074)
  else
    let exponent := exponentFor n d
    let (a, b) := inUnits n d exponent
    let rounded := nearestQuotient a b
    let (mantissa, exponent) := if rounded = Nat.pow 2 53 then (Nat.pow 2 52, exponent + 1) else (rounded, exponent)
    if 971 < exponent then .infinite negative else .finite negative mantissa exponent

/-- The double nearest to an integer, unless it is too large for any. -/
def ofInt? (n : Int) : Option Binary64 :=
  if n.natAbs < integerLimit then some (ofQuotient (n < 0) n.natAbs 1) else none

/-- The double nearest to the sum of two numbers; a sum of zero is negative only if both terms are. -/
def addFinite (negative : Bool) (mantissa : Nat) (exponent : Int) (negative' : Bool) (mantissa' : Nat) (exponent' : Int) :
    Binary64 :=
  let least := min exponent exponent'
  let term (negative : Bool) (mantissa : Nat) (exponent : Int) : Int :=
    applySign negative (mantissa * Nat.pow 2 (exponent - least).toNat)
  let sum := term negative mantissa exponent + term negative' mantissa' exponent'
  if sum = 0 then .finite (negative && negative') 0 (-1074)
  else ofQuotient (sum < 0) (sum.natAbs * Nat.pow 2 least.toNat) (Nat.pow 2 (-least).toNat)

def add : Binary64 → Binary64 → Binary64
  | .nan, _ | _, .nan => .nan
  | .infinite negative, .infinite negative' => if negative = negative' then .infinite negative else .nan
  | .infinite negative, _ | _, .infinite negative => .infinite negative
  | .finite negative mantissa exponent, .finite negative' mantissa' exponent' =>
    addFinite negative mantissa exponent negative' mantissa' exponent'

example : ofQuotient false 1 10 = ofBits 0x3FB999999999999A := by decide +kernel

example : add (ofBits 0x3FB999999999999A) (ofBits 0x3FC999999999999A) = ofBits 0x3FD3333333333334 := by decide +kernel

end Binary64

namespace Decimal

/-- Beyond this power of ten a number is infinite as a double, and below its inverse it is zero. -/
def doublePower : Nat := 400

def toBinary64 : Decimal → Binary64
  | .nan .. => .nan
  | .infinite negative => .infinite negative
  | .finite negative coefficient exponent =>
    let power := exponent + (Nat.toDigits 10 coefficient).length
    if coefficient = 0 ∨ power < -doublePower then .finite negative 0 (-1074)
    else if doublePower < power then .infinite negative
    else .ofQuotient negative (coefficient * Nat.pow 10 exponent.toNat) (Nat.pow 10 (-exponent).toNat)

end Decimal
end Retention
