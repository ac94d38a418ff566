import Retention.Number.Rounded

/-! # Texts of real numbers

A sign, then digits with a point and an exponent, an infinity or a NaN, in digits of any script and in any letter case.
Single low lines stand between digits, and blanks around it all.
-/

namespace Retention.RealText

open Text

/-- Every low line stands between two digits. -/
def lowLinesFit : List Char → Bool
  | a :: '_' :: b :: rest => a.isDigit && b.isDigit && lowLinesFit (b :: rest)
  | ['_'] | [_, '_'] => false
  | '_' :: _ => false
  | _ :: rest => lowLinesFit rest
  | [] => true

def magnitude? (negative : Bool) (cs : List Char) : Option Binary64 :=
  let word := String.ofList (cs.map Char.toLower)
  if word = "nan" then some .nan
  else if word = "inf" ∨ word = "infinity" then some (.infinite negative)
  else (Decimal.magnitude? cs).map fun (coefficient, exponent) =>
    (Decimal.finite negative coefficient exponent).toBinary64

def value? (s : String) : Option Binary64 :=
  let cs := (trim isBlank s.toList).map fun c => ((digit? c).map digitChar).getD c
  if lowLinesFit cs then
    match cs.filter (· != '_') with
    | '-' :: rest => magnitude? true rest
    | '+' :: rest => magnitude? false rest
    | rest => magnitude? false rest
  else none

example : (["1_0.5e-3", " +.5", "-Infinity", "1e999"].map value?).all Option.isSome = true := by decide +kernel

example : (["1_", "_1", "1__0", "1_.5", ".", "1e", "--1", ""].map value?).all Option.isNone = true := by decide +kernel

end Retention.RealText
