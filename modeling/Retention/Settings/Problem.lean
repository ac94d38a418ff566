import Retention.Value.Literal

/-! # Problems of settings

A problem names a setting, says what is wrong and shows the value. Long values are shown by their first and last bytes,
cut at the borders of characters.
-/

namespace Retention.Settings

inductive ProblemKind where
  | boolParsing
  | boolType
  | intParsing
  | intParsingSize
  | intFromFloat
  | finiteNumber
  | intType
  | stringType
  | stringUnicode
  | extraForbidden
  deriving DecidableEq, Repr

namespace ProblemKind

def word : ProblemKind → String
  | .boolParsing => "bool_parsing"
  | .boolType => "bool_type"
  | .intParsing => "int_parsing"
  | .intParsingSize => "int_parsing_size"
  | .intFromFloat => "int_from_float"
  | .finiteNumber => "finite_number"
  | .intType => "int_type"
  | .stringType => "string_type"
  | .stringUnicode => "string_unicode"
  | .extraForbidden => "extra_forbidden"

def message : ProblemKind → String
  | .boolParsing => "Input should be a valid boolean, unable to interpret input"
  | .boolType => "Input should be a valid boolean"
  | .intParsing => "Input should be a valid integer, unable to parse string as an integer"
  | .intParsingSize => "Unable to parse input string as an integer, exceeded maximum size"
  | .intFromFloat => "Input should be a valid integer, got a number with a fractional part"
  | .finiteNumber => "Input should be a finite number"
  | .intType => "Input should be a valid integer"
  | .stringType => "Input should be a valid string"
  | .stringUnicode => "Input should be a valid string, unable to parse raw data as a unicode string"
  | .extraForbidden => "Extra inputs are not permitted"

end ProblemKind

structure Problem where
  name : String
  kind : ProblemKind
  input : Value
  deriving Repr

def dropBytes : Nat → List Char → List Char
  | _, [] => []
  | n, c :: cs => if n = 0 then c :: cs else dropBytes (n - c.utf8Size) cs

def takeBytes : Nat → List Char → List Char
  | _, [] => []
  | n, c :: cs => if c.utf8Size ≤ n then c :: takeBytes (n - c.utf8Size) cs else []

/-- Texts of more than fifty bytes keep about the first twenty-five and the last twenty-four. -/
def abridge (s : String) : String :=
  let n := s.utf8ByteSize
  if n ≤ 50 then s
  else String.ofList (takeBytes 25 s.toList ++ ['.', '.', '.'] ++ dropBytes (n - 24) s.toList)

namespace Problem

/-- A name that holds a point is quoted. -/
def place (p : Problem) : String :=
  if p.name.toList.contains '.' then "\x60" ++ p.name ++ "\x60" else p.name

def lines (p : Problem) : List String :=
  [p.place,
    "  " ++ p.kind.message ++ " [type=" ++ p.kind.word ++ ", input_value=" ++ abridge p.input.literal ++
      ", input_type=" ++ p.input.shortTypeName ++ "]",
    "    For further information visit https://errors.pydantic.dev/2.14/v/" ++ p.kind.word]

end Problem

def problemsText (problems : List Problem) : String :=
  let count := problems.length
  let head := toString count ++ " validation error" ++ (if count = 1 then "" else "s") ++ " for Settings"
  "\n".intercalate (head :: problems.flatMap Problem.lines)

end Retention.Settings
