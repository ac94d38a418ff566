import Retention.Number.Binary64

/-! # Shortest decimal text of a double

The fewest digits that read back as the number, nearest to it among those; positional from 0.0001 up to 10 ^ 16.
-/

namespace Retention.Binary64

def digitCount (n : Nat) : Nat :=
  (Nat.toDigits 10 n).length

/-- A positive number and the ends of the interval that rounds to it, over one denominator. -/
structure Interval where
  low : Nat
  value : Nat
  high : Nat
  denominator : Nat
  closed : Bool

/-- The gap below a power of two is half of the gap above it, down to the least exponent. -/
def interval (mantissa : Nat) (exponent : Int) : Interval :=
  let scale := Nat.pow 2 (exponent - 2).toNat
  let below := if mantissa = Nat.pow 2 52 ∧ exponent ≠ -1074 then 1 else 2
  { low := (4 * mantissa - below) * scale
    value := 4 * mantissa * scale
    high := (4 * mantissa + 2) * scale
    denominator := Nat.pow 2 (2 - exponent).toNat
    closed := mantissa % 2 == 0 }

namespace Interval

def decimalPoint (i : Interval) : Int :=
  if i.value ≥ i.denominator then digitCount (i.value / i.denominator)
  else 1 - digitCount (i.denominator / i.value)

def inUnits (i : Interval) (n : Nat) (power : Int) : Nat × Nat :=
  (n * Nat.pow 10 (-power).toNat, i.denominator * Nat.pow 10 power.toNat)

/-- A multiple of a power of ten reads back as the number. -/
def contains (i : Interval) (power : Int) (c : Nat) : Bool :=
  let (low, unit) := i.inUnits i.low power
  let (high, _) := i.inUnits i.high power
  if i.closed then low ≤ c * unit && c * unit ≤ high else low < c * unit && c * unit < high

/-- The multiple of a power of ten that reads back as the number, the nearer one of two, the even one of two as near. -/
def nearest? (i : Interval) (power : Int) : Option Nat :=
  let (value, unit) := i.inUnits i.value power
  let c := value / unit
  match i.contains power c, i.contains power (c + 1) with
  | false, false => none
  | true, false => some c
  | false, true => some (c + 1)
  | true, true =>
    let twice := 2 * (value % unit)
    if twice < unit ∨ (twice = unit ∧ c % 2 = 0) then some c else some (c + 1)

/-- Digits and the power of ten of their last place, for the least count of digits that reads back. -/
def shortest (i : Interval) : Nat × Int :=
  let point := i.decimalPoint
  let grids := (List.range 17).map fun n => point - (n + 1 : Nat)
  (grids.findSome? fun power => (i.nearest? power).map fun c => (c, power)).getD (0, 0)

end Interval

def trimZeros (ds : List Char) : List Char :=
  (ds.reverse.dropWhile (· == '0')).reverse

def exponentText (n : Int) : List Char :=
  let ds := Nat.toDigits 10 n.natAbs
  (if n < 0 then '-' else '+') :: (if ds.length < 2 then '0' :: ds else ds)

/-- The digits `0.ds * 10 ^ point`, with a digit on both sides of the point. -/
def layout (ds : List Char) (point : Int) : List Char :=
  if -4 < point ∧ point ≤ 16 then
    if point ≤ 0 then '0' :: '.' :: List.replicate (-point).toNat '0' ++ ds
    else
      let padded := ds ++ List.replicate (point.toNat - ds.length) '0'
      let fraction := padded.drop point.toNat
      padded.take point.toNat ++ '.' :: (if fraction.isEmpty then ['0'] else fraction)
  else
    let fraction := ds.drop 1
    ds.take 1 ++ (if fraction.isEmpty then [] else '.' :: fraction) ++ 'e' :: exponentText (point - 1)

def toText : Binary64 → String
  | .nan => "nan"
  | .infinite negative => if negative then "-inf" else "inf"
  | .finite negative mantissa exponent =>
    let magnitude :=
      if mantissa = 0 then ['0', '.', '0']
      else
        let (c, power) := (interval mantissa exponent).shortest
        let ds := Nat.toDigits 10 c
        layout (trimZeros ds) (power + ds.length)
    String.ofList (if negative then '-' :: magnitude else magnitude)

end Retention.Binary64
