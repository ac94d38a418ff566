import Retention.Settings.Problem
import Retention.Text.Front
import Retention.Text.Numeral

/-! # Integers in settings

A plain integer is zero, or digits that start with no zero, with a minus in front or nothing. A text that is none is tidied
once: blanks around it, a plus sign, zeros and low lines in front, a point with nothing but zeros behind it and single low
lines go. What is left must be plain.
-/

namespace Retention.Settings.Integer

open Text

def lengthLimit : Nat := Numeral.digitLimit

/-- What a text is, read as a plain integer. A text that starts with too many digits is too long, whatever follows. -/
inductive Plain where
  | integer (n : Int)
  | tooLong
  | other
  deriving DecidableEq, Repr

def minus : List Char → Bool × List Char
  | '-' :: rest => (true, rest)
  | cs => (false, cs)

def plain (cs : List Char) : Plain :=
  let (negative, body) := minus cs
  let digits := body.takeWhile fun c => (asciiDigit? c).isSome
  if body = ['0'] then .integer 0
  else if digits.isEmpty || digits.head? == some '0' then .other
  else if lengthLimit < digits.length then .tooLong
  else if digits.length < body.length then .other
  else .integer (Numeral.applySign negative (Numeral.value (digits.filterMap asciiDigit?)))

/-- Drops zeros and low lines from the front up to a digit, a minus or a point, which keeps one of them; if nothing else is
there, the last stays. -/
def dropZerosAfter (last : Char) : List Char → Option (List Char)
  | [] => some [last]
  | c :: rest =>
    if c = '0' ∨ c = '_' then dropZerosAfter c rest
    else if c = '.' then some (last :: c :: rest)
    else if c = '-' ∨ (asciiDigit? c).isSome then some (c :: rest)
    else none

/-- Drops zeros from the front, which has to be a digit or a minus. -/
def dropZeros? : List Char → Option (List Char)
  | [] => none
  | c :: rest =>
    if c = '0' then dropZerosAfter c rest
    else if c = '-' ∨ (asciiDigit? c).isSome then some (c :: rest)
    else none

def dropPointZeros (cs : List Char) : List Char :=
  match cutAt? (· == '.') cs with
  | some (whole, _, zeros) => if !zeros.isEmpty && zeros.all (· == '0') then whole else cs
  | none => cs

def hasDoubleLowLine : List Char → Bool
  | '_' :: '_' :: _ => true
  | _ :: rest => hasDoubleLowLine rest
  | [] => false

/-- Drops low lines that stand alone between other characters. -/
def dropLowLines (cs : List Char) : List Char :=
  if cs.head? == some '_' || cs.getLast? == some '_' || hasDoubleLowLine cs then cs else cs.filter (· != '_')

def tidyBody? (cs : List Char) : Option (List Char) :=
  (dropZeros? cs).map fun cs => dropLowLines (dropPointZeros cs)

/-- Tidies a text; no minus stands behind a plus. -/
def tidy? (cs : List Char) : Option (List Char) :=
  match trim isBlank cs with
  | '-' :: body => (tidyBody? body).map ('-' :: ·)
  | '+' :: '-' :: _ => none
  | '+' :: body => tidyBody? body
  | body => tidyBody? body

/-- The integer of a text, as it stands or tidied. -/
def ofText (s : String) : Except ProblemKind Int :=
  match plain s.toList with
  | .integer n => .ok n
  | .tooLong => .error .intParsingSize
  | .other =>
    match (tidy? s.toList).map plain with
    | some (.integer n) => .ok n
    | _ => .error .intParsing

example : (ofText " +00_1_0.00 ", ofText "-0__3", ofText "0-5") = (.ok 10, .ok (-3), .ok (-5)) := by cbv

example : (ofText "+-1", ofText "1__0", ofText "1.") = (.error .intParsing, .error .intParsing, .error .intParsing) := by
  cbv

end Retention.Settings.Integer
