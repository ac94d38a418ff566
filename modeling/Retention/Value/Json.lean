import Retention.Text.JsonText
import Retention.Value.Literal

/-! # JSON of values

Values as JSON on one line. What JSON has no form for is written as the string of its literal.
-/

namespace Retention.Value

open Text

mutual

def json : Value → String
  | .null => "null"
  | .bool b => if b then "true" else "false"
  | .int n => toString n
  | .float .nan => "NaN"
  | .float (.infinite negative) => if negative then "-Infinity" else "Infinity"
  | .float x => x.toText
  | .text s => JsonText.encode s
  | .loose t => JsonText.encodeLoose t
  | .list items => "[" ++ ", ".intercalate (jsons items) ++ "]"
  | .map entries => "\x7b" ++ ", ".intercalate (entryJsons entries) ++ "\x7d"
  | v => JsonText.encode v.literal

def jsons : List Value → List String
  | [] => []
  | v :: rest => v.json :: jsons rest

def entryJsons : List (String × Value) → List String
  | [] => []
  | (k, v) :: rest => (JsonText.encode k ++ ": " ++ v.json) :: entryJsons rest

end

def jsonObject (entries : List (String × Value)) : String :=
  (Value.map entries).json

end Retention.Value
