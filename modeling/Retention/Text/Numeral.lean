import Retention.Text.Blank
import Retention.Text.Digit

/-! # Integer numerals

An optional sign and digits, with single low lines between digits and blanks around. The number of digits is limited.
-/

namespace Retention.Text.Numeral

inductive Flaw where
  | malformed
  | tooLong (digits : Nat)
  deriving DecidableEq, Repr

def digitLimit : Nat := 4300

def value (ds : List Nat) : Nat :=
  ds.foldl (fun n d => 10 * n + d) 0

/-- The digits of a run, if a digit stands at both ends and low lines stand alone. -/
def digits? (digit? : Char → Option Nat) : List Char → Option (List Nat)
  | [] => none
  | [c] => (digit? c).map fun d => [d]
  | c :: '_' :: rest => do return (← digit? c) :: (← digits? digit? rest)
  | c :: rest => do return (← digit? c) :: (← digits? digit? rest)

def sign : List Char → Bool × List Char
  | '+' :: rest => (false, rest)
  | '-' :: rest => (true, rest)
  | cs => (false, cs)

def applySign (minus : Bool) (n : Nat) : Int :=
  if minus then -n else n

/-- The integer that a numeral stands for. The digits are counted before the text after them is looked at. -/
def read (blank : Char → Bool) (digit? : Char → Option Nat) (cs : List Char) : Except Flaw Int :=
  let (minus, body) := sign (cs.dropWhile blank)
  let inRun c := c == '_' || (digit? c).isSome
  match digits? digit? (body.takeWhile inRun) with
  | none => .error .malformed
  | some ds =>
    if ds.length > digitLimit then .error (.tooLong ds.length)
    else if (body.dropWhile inRun).all blank then .ok (applySign minus (value ds))
    else .error .malformed

/-- Reads digits of any script and White_Space blanks. -/
def ofText (s : String) : Except Flaw Int :=
  read isBlank digit? s.toList

def ofBytes (bs : List UInt8) : Except Flaw Int :=
  read isAsciiBlank asciiDigit? (bs.map fun b => Char.ofNat b.toNat)

theorem value_append (ds : List Nat) (d : Nat) : value (ds ++ [d]) = 10 * value ds + d := by
  simp [value]

example : ofText " -1_000\t" = .ok (-1000) := by cbv

example : ofText "1__0" = .error .malformed := by cbv

end Retention.Text.Numeral
