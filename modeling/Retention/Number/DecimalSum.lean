import Retention.Fault
import Retention.Number.Nearest

/-! # Sums of decimal numbers

A sum keeps twenty-eight digits, and a half goes to the even neighbour. What is then beyond the greatest number is an
overflow, and a NaN can be compared with nothing.
-/

namespace Retention.Decimal

def precision : Nat := 28

/-- The greatest exponent that a leading digit has. -/
def greatestExponent : Int := 999999

/-- The least exponent that a last digit has. -/
def leastExponent : Int := -1000026

def digitCount (n : Nat) : Nat :=
  (Nat.toDigits 10 n).length

def invalid : Mishap :=
  ⟨.other "InvalidOperation", "[<class 'decimal.InvalidOperation'>]"⟩

def overflow : Mishap :=
  ⟨.other "Overflow", "[<class 'decimal.Overflow'>]"⟩

def isBelowZero : Decimal → Except Mishap Bool
  | .finite negative coefficient _ => .ok (negative && coefficient != 0)
  | .infinite negative => .ok negative
  | .nan .. => .error invalid

/-- A coefficient and its exponent in units of a power of ten that is not below it. -/
def inTens (coefficient : Nat) (exponent last : Int) : Nat × Int :=
  -- The power is not computed if all digits are cut off.
  if exponent + digitCount coefficient < last then (0, last)
  else
    let rounded := nearestQuotient coefficient (Nat.pow 10 (last - exponent).toNat)
    if rounded = Nat.pow 10 precision then (rounded / 10, last + 1) else (rounded, last)

def shortened (negative : Bool) (coefficient : Nat) (exponent : Int) : Except Mishap Decimal :=
  if coefficient = 0 then .ok (.finite negative 0 (max leastExponent (min exponent greatestExponent)))
  else
    let last := max (exponent + digitCount coefficient - precision) leastExponent
    let (coefficient, exponent) :=
      if last ≤ exponent then (coefficient, exponent) else inTens coefficient exponent last
    if greatestExponent < exponent + digitCount coefficient - 1 then .error overflow
    else .ok (.finite negative coefficient exponent)

/-- The sum of finite numbers, the first of which has the lower exponent; a sum of zero is negative only if both terms are.
A term that lies below the digits that are kept counts by its sign alone. -/
def addAligned (negative : Bool) (coefficient : Nat) (exponent : Int) (negative' : Bool) (coefficient' : Nat)
    (exponent' : Int) : Except Mishap Decimal :=
  if coefficient' = 0 then shortened (negative && (negative' || coefficient != 0)) coefficient exponent
  else
    let floor := exponent' - max 1 (precision + 2 - digitCount coefficient')
    let (coefficient, exponent) :=
      if exponent + digitCount coefficient ≤ floor then (min coefficient 1, floor) else (coefficient, exponent)
    let sum := applySign negative coefficient +
      applySign negative' (coefficient' * Nat.pow 10 (exponent' - exponent).toNat)
    shortened (if sum = 0 then negative && negative' else sum < 0) sum.natAbs exponent

def add : Decimal → Decimal → Except Mishap Decimal
  | .nan _ true _, _ | _, .nan _ true _ => .error invalid
  | .nan negative _ payload, _ | _, .nan negative _ payload => .ok (.nan negative false payload)
  | .infinite negative, .infinite negative' => if negative = negative' then .ok (.infinite negative) else .error invalid
  | .infinite negative, _ | _, .infinite negative => .ok (.infinite negative)
  | .finite negative coefficient exponent, .finite negative' coefficient' exponent' =>
    if exponent ≤ exponent' then addAligned negative coefficient exponent negative' coefficient' exponent'
    else addAligned negative' coefficient' exponent' negative coefficient exponent

example : (add (.finite false 1 50) (.finite false 5 22)).toOption = some (.finite false (Nat.pow 10 27) 23) := by decide +kernel

end Retention.Decimal
