import Retention.Text.Blank
import Retention.Text.Digit

/-! # Decimal numbers

A decimal number is a coefficient times a power of ten with a sign. Its text keeps both, as scientific notation prints
them.
-/

namespace Retention

/-- A decimal number; the finite ones are worth `coefficient * 10 ^ exponent`. -/
inductive Decimal where
  | finite (negative : Bool) (coefficient : Nat) (exponent : Int)
  | infinite (negative : Bool)
  | nan (negative signaling : Bool) (payload : Nat)
  deriving DecidableEq, Repr

namespace Decimal

def applySign (negative : Bool) (n : Nat) : Int :=
  if negative then -n else n

/-- The whole part of `coefficient * 10 ^ exponent`; nothing is left of a coefficient with fewer digits than are cut off. -/
def wholePart (coefficient : Nat) (exponent : Int) : Nat :=
  if exponent < -(Nat.toDigits 10 coefficient).length then 0
  else coefficient * Nat.pow 10 exponent.toNat / Nat.pow 10 (-exponent).toNat

def isWhole (coefficient : Nat) (exponent : Int) : Bool :=
  if exponent < -(Nat.toDigits 10 coefficient).length then coefficient == 0
  else coefficient * Nat.pow 10 exponent.toNat % Nat.pow 10 (-exponent).toNat == 0

def truncate? : Decimal → Option Int
  | .finite negative coefficient exponent => some (applySign negative (wholePart coefficient exponent))
  | _ => none

def toInt? : Decimal → Option Int
  | .finite negative coefficient exponent =>
    if isWhole coefficient exponent then some (applySign negative (wholePart coefficient exponent)) else none
  | _ => none

def isZero : Decimal → Bool
  | .finite _ coefficient _ => coefficient == 0
  | _ => false

def isFinite : Decimal → Bool
  | .finite .. => true
  | _ => false

def signText (negative : Bool) : List Char :=
  if negative then ['-'] else []

def signedText (n : Int) : List Char :=
  (if n < 0 then '-' else '+') :: Nat.toDigits 10 n.natAbs

/-- Digits with the point before the place `point`, filled up with zeros on either side. -/
def place (ds : List Char) (point : Int) : List Char :=
  if point ≤ 0 then '0' :: '.' :: List.replicate (-point).toNat '0' ++ ds
  else if ds.length ≤ point.toNat then ds ++ List.replicate (point.toNat - ds.length) '0'
  else ds.take point.toNat ++ '.' :: ds.drop point.toNat

/-- Positional while the exponent is not positive and at most five zeros follow the point. -/
def toText : Decimal → String
  | .finite negative coefficient exponent =>
    let ds := Nat.toDigits 10 coefficient
    let left := exponent + ds.length
    let point := if exponent ≤ 0 ∧ -6 < left then left else 1
    let tail := if left = point then [] else 'E' :: signedText (left - point)
    String.ofList (signText negative ++ place ds point ++ tail)
  | .infinite negative => String.ofList (signText negative ++ "Infinity".toList)
  | .nan negative signaling payload =>
    String.ofList (signText negative ++ (if signaling then ['s'] else []) ++ "NaN".toList ++
      (if payload = 0 then [] else Nat.toDigits 10 payload))

def ofDigits? (cs : List Char) : Option Nat :=
  if cs.all Char.isDigit then some (cs.foldl (fun n c => 10 * n + (c.toNat - 0x30)) 0) else none

def exponent? : List Char → Option Int
  | [] => none
  | '-' :: c :: rest => (ofDigits? (c :: rest)).map fun n => -n
  | '+' :: c :: rest => (ofDigits? (c :: rest)).map fun n => n
  | cs => (ofDigits? cs).map fun n => n

/-- Digits with at most one point among or around them, and an optional exponent. -/
def magnitude? (cs : List Char) : Option (Nat × Int) := do
  let mark c := c == 'e' || c == 'E'
  let mantissa := cs.takeWhile fun c => !mark c
  let power ← match cs.dropWhile fun c => !mark c with
    | [] => some 0
    | _ :: rest => exponent? rest
  let whole := mantissa.takeWhile (· != '.')
  let fraction := (mantissa.dropWhile (· != '.')).drop 1
  if whole.isEmpty && fraction.isEmpty then none
  return (← ofDigits? (whole ++ fraction), power - fraction.length)

/-- The characters of a numeral: blanks around it and low lines are dropped, and digits of any script are ASCII digits. -/
def numeralChars (s : String) : List Char :=
  ((Text.trim Text.isSpacing s.toList).filter (· != '_')).map fun c => ((Text.digit? c).map Text.digitChar).getD c

/-- Reads a sign, then a number, an infinity or a NaN with its payload, in any case. -/
def ofText? (s : String) : Option Decimal :=
  let (negative, body) := match numeralChars s with
    | '-' :: rest => (true, rest)
    | '+' :: rest => (false, rest)
    | cs => (false, cs)
  match body.map Char.toLower with
  | 'n' :: 'a' :: 'n' :: payload => (ofDigits? payload).map (.nan negative false)
  | 's' :: 'n' :: 'a' :: 'n' :: payload => (ofDigits? payload).map (.nan negative true)
  | ['i', 'n', 'f'] => some (.infinite negative)
  | ['i', 'n', 'f', 'i', 'n', 'i', 't', 'y'] => some (.infinite negative)
  | cs => (magnitude? cs).map fun (c, e) => .finite negative c e

example : (ofText? "1E+5").map (fun d => (d.truncate?, d.toText)) = some (some 100000, "1E+5") := by decide +kernel

example : (ofText? "-3.70").map (fun d => (d.truncate?, d.toText)) = some (some (-3), "-3.70") := by decide +kernel

end Decimal
end Retention
