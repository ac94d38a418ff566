import Retention.Number.Rounded
import Retention.Settings.Integer

/-! # Values of settings

How a value is read as a text, an integer or a truth value. Bytes stand for the text that they encode. A loose text is taken as
a text, and neither an integer nor a truth value is looked for in it.
-/

namespace Retention.Settings

open Text

/-- The text of text and bytes; nothing for other values. -/
def asText? (bad : ProblemKind) : Value → Except ProblemKind (Option String)
  | .text s => .ok (some s)
  | .loose _ => .error .stringUnicode
  | .bytes bs =>
    match String.fromUTF8? ⟨bs.toArray⟩ with
    | some s => .ok (some s)
    | none => .error bad
  | _ => .ok none

def readText : Value → Except ProblemKind Loose
  | .loose t => .ok t
  | v => do
    match ← asText? .stringUnicode v with
    | some s => return s
    | none => throw .stringType

def readText? : Value → Except ProblemKind (Option Loose)
  | .null => .ok none
  | v => (readText v).map some

def trueWords : List String :=
  ["1", "true", "t", "yes", "y", "on"]

def falseWords : List String :=
  ["0", "false", "f", "no", "n", "off"]

def boolOfWord? (s : String) : Option Bool :=
  if trueWords.contains s.toLower then some true
  else if falseWords.contains s.toLower then some false
  else none

def isWord64 (n : Int) : Bool :=
  -Nat.pow 2 63 ≤ n && n < Nat.pow 2 63

/-- The integers within the words of sixty-four bits on either side of zero. -/
def isInnerWord64 (n : Int) : Bool :=
  n.natAbs < Nat.pow 2 63

/-- Zero and one are truth values; a number within the words cannot be interpreted, others are no candidates. -/
def boolOfNumber (isCandidate : Int → Bool) : Option Int → Except ProblemKind Bool
  | some 0 => .ok false
  | some 1 => .ok true
  | some n => .error (if isCandidate n then .boolParsing else .boolType)
  | none => .error .boolType

/-- Words and numbers are read; a decimal number counts as the double nearest to it. -/
def readBool (v : Value) : Except ProblemKind Bool := do
  if let .bool b := v then return b
  if let some s ← asText? .boolParsing v then
    return ← (boolOfWord? s).elim (throw .boolParsing) pure
  match v with
  | .int n => boolOfNumber isWord64 (some n)
  | .float x => boolOfNumber isInnerWord64 x.toInt?
  | .decimal d => boolOfNumber isInnerWord64 d.toBinary64.toInt?
  | _ => throw .boolType

/-- Texts are read and numbers are taken if they are integers. -/
def readInt (v : Value) : Except ProblemKind Int := do
  if let some s ← asText? .intParsing v then
    return ← Integer.ofText s
  match v with
  | .bool _ | .int _ => v.toInt?.elim (throw .intType) pure
  | .float .nan | .float (.infinite _) => throw .finiteNumber
  | .float x =>
    match x.toInt? with
    | some n => if isInnerWord64 n then return n else throw .intParsingSize
    | none => throw .intFromFloat
  | .decimal d =>
    if !d.isFinite then throw .finiteNumber
    d.toInt?.elim (throw .intFromFloat) pure
  | _ => throw .intType

end Retention.Settings
