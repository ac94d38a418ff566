import Retention.Text.Loose

/-! # JSON strings in ASCII

A JSON string in which every character outside the visible ASCII characters is escaped, by its UTF-16 units where no
short escape exists. A lone surrogate is such a unit.
-/

namespace Retention.Text.JsonText

/-- The UTF-16 units of a code point. -/
def units (n : Nat) : List Nat :=
  if n < 0x10000 then [n]
  else [0xD800 + (n - 0x10000) / 0x400, 0xDC00 + (n - 0x10000) % 0x400]

def escapeChar (c : Char) : List Char :=
  if c = '\x22' ∨ c = '\\' then ['\\', c]
  else if c = '\n' then ['\\', 'n']
  else if c = '\r' then ['\\', 'r']
  else if c = '\t' then ['\\', 't']
  else if c = '\x08' then ['\\', 'b']
  else if c = '\x0c' then ['\\', 'f']
  else if 0x20 ≤ c.toNat && c.toNat < 0x7F then [c]
  else (units c.toNat).flatMap fun u => '\\' :: 'u' :: hex 4 u

def escape : Symbol → List Char
  | .char c => escapeChar c
  | .lone place => '\\' :: 'u' :: hex 4 (Symbol.lone place).code

def encode (s : String) : String :=
  String.ofList ('\x22' :: s.toList.flatMap escapeChar ++ ['\x22'])

def encodeLoose (t : Loose) : String :=
  String.ofList ('\x22' :: t.symbols.flatMap escape ++ ['\x22'])

example : encode "é\n😀" = "\x22\\u00e9\\n\\ud83d\\ude00\x22" := by cbv

end Retention.Text.JsonText
