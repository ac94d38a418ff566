import Retention.Fault
import Retention.Text.Numeral
import Retention.Text.Quoted
import Retention.Value.Basic

/-! # Whole numbers from values

Numbers lose their fraction, text and bytes are read as numerals, and everything else is refused.
-/

namespace Retention

open Text

inductive Unwhole where
  | notANumber (typeName : String)
  | badNumeral (literal : String)
  | tooLong (digits : Nat)
  | floatNan
  | floatInfinite
  | decimalNan
  | decimalInfinite
  deriving DecidableEq, Repr

namespace Unwhole

/-- The greatest length of a quoted numeral in a message; of bytes no more are quoted at all. -/
def quotedLimit : Nat := 200

def message : Unwhole → String
  | .notANumber typeName =>
    "int() argument must be a string, a bytes-like object or a real number, not '" ++ typeName ++ "'"
  | .badNumeral literal => "invalid literal for int() with base 10: " ++ String.ofList (literal.toList.take quotedLimit)
  | .tooLong digits =>
    "Exceeds the limit (" ++ toString Numeral.digitLimit ++ " digits) for integer string conversion: value has " ++
      toString digits ++ " digits; use sys.set_int_max_str_digits() to increase the limit"
  | .floatNan => "cannot convert float NaN to integer"
  | .floatInfinite => "cannot convert float infinity to integer"
  | .decimalNan => "cannot convert NaN to integer"
  | .decimalInfinite => "cannot convert Infinity to integer"

def kind : Unwhole → MishapKind
  | .notANumber _ => .type
  | .floatInfinite | .decimalInfinite => .overflow
  | _ => .value

def toMishap (u : Unwhole) : Mishap :=
  ⟨u.kind, u.message⟩

def ofFlaw (literal : String) : Numeral.Flaw → Unwhole
  | .malformed => .badNumeral literal
  | .tooLong digits => .tooLong digits

end Unwhole

namespace Value

def toWhole : Value → Except Unwhole Int
  | .bool b => .ok (if b then 1 else 0)
  | .int n => .ok n
  | .float .nan => .error .floatNan
  | .float (.infinite _) => .error .floatInfinite
  | .float (.finite negative mantissa exponent) =>
    .ok (Binary64.applySign negative (Binary64.wholePart mantissa exponent))
  | .decimal (.nan ..) => .error .decimalNan
  | .decimal (.infinite _) => .error .decimalInfinite
  | .decimal (.finite negative coefficient exponent) =>
    .ok (Decimal.applySign negative (Decimal.wholePart coefficient exponent))
  | .text s => (Numeral.ofText s).mapError (Unwhole.ofFlaw (Quoted.text s))
  | .loose t => .error (.badNumeral (Quoted.loose t))
  | .bytes bs => (Numeral.ofBytes bs).mapError (Unwhole.ofFlaw (Quoted.bytes (bs.take Unwhole.quotedLimit)))
  | v => .error (.notANumber v.typeName)

end Value
end Retention
