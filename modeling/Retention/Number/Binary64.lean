/-! # Double-precision numbers

A finite number is a mantissa times a power of two with a sign. Truncation is toward zero.
-/

namespace Retention

/-- A double-precision number; the finite ones are worth `mantissa * 2 ^ exponent`. -/
inductive Binary64 where
  | nan
  | infinite (negative : Bool)
  | finite (negative : Bool) (mantissa : Nat) (exponent : Int)
  deriving DecidableEq, Repr

namespace Binary64

/-- Sign, eleven exponent bits, fifty-two fraction bits. -/
def ofBits (bits : UInt64) : Binary64 :=
  let n : Nat := bits.toNat
  let negative := n / Nat.pow 2 63 == 1
  let power : Nat := n / Nat.pow 2 52 % Nat.pow 2 11
  let fraction := n % Nat.pow 2 52
  if power = 2047 then if fraction = 0 then .infinite negative else .nan
  else if power = 0 then .finite negative fraction (-1074)
  else .finite negative (Nat.pow 2 52 + fraction) ((power : Int) - 1075)

def wholePart (mantissa : Nat) (exponent : Int) : Nat :=
  mantissa * Nat.pow 2 exponent.toNat / Nat.pow 2 (-exponent).toNat

/-- Nothing of `mantissa * 2 ^ exponent` lies behind the point. -/
def isWhole (mantissa : Nat) (exponent : Int) : Bool :=
  mantissa * Nat.pow 2 exponent.toNat % Nat.pow 2 (-exponent).toNat == 0

def applySign (negative : Bool) (n : Nat) : Int :=
  if negative then -n else n

def truncate? : Binary64 → Option Int
  | .finite negative mantissa exponent => some (applySign negative (wholePart mantissa exponent))
  | _ => none

def toInt? : Binary64 → Option Int
  | .finite negative mantissa exponent =>
    if isWhole mantissa exponent then some (applySign negative (wholePart mantissa exponent)) else none
  | _ => none

def isZero : Binary64 → Bool
  | .finite _ mantissa _ => mantissa == 0
  | _ => false

def isBelowZero : Binary64 → Bool
  | .finite negative mantissa _ => negative && mantissa != 0
  | .infinite negative => negative
  | .nan => false

/-- From here on an integer rounds to no double. -/
def integerLimit : Nat := Nat.pow 2 1024 - Nat.pow 2 970

example : (ofBits 0xC00F333333333333).truncate? = some (-3) := by decide +kernel

example : (ofBits 0x408F400000000000).toInt? = some 1000 := by decide +kernel

end Binary64
end Retention
