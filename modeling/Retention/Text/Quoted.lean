import Retention.Text.Loose
import Retention.Text.Printable

/-! # Quoted literals

Text between quotes, with the enclosing quote, the backslash and unprintable characters escaped. The quote is an
apostrophe, unless the text holds apostrophes and no double quotes.
-/

namespace Retention.Text.Quoted

def quoteFor (cs : List Char) : Char :=
  if cs.contains '\x27' && !cs.contains '\x22' then '\x22' else '\x27'

/-- A code point as two, four or eight hexadecimal digits. -/
def escapeCode (n : Nat) : List Char :=
  if n < 0x100 then '\\' :: 'x' :: hex 2 n
  else if n < 0x10000 then '\\' :: 'u' :: hex 4 n
  else '\\' :: 'U' :: hex 8 n

def escapeChar (printable : Char → Bool) (quote c : Char) : List Char :=
  if c = quote ∨ c = '\\' then ['\\', c]
  else if c = '\n' then ['\\', 'n']
  else if c = '\r' then ['\\', 'r']
  else if c = '\t' then ['\\', 't']
  else if printable c then [c]
  else escapeCode c.toNat

def encode (printable : Char → Bool) (cs : List Char) : List Char :=
  quoteFor cs :: cs.flatMap (escapeChar printable (quoteFor cs)) ++ [quoteFor cs]

def text (s : String) : String :=
  String.ofList (encode isPrintable s.toList)

/-- The literal of a loose text; a lone surrogate is not printable. -/
def loose (t : Loose) : String :=
  let quote := quoteFor (t.symbols.map Symbol.face)
  let escape : Symbol → List Char
    | .char c => escapeChar isPrintable quote c
    | .lone place => escapeCode (Symbol.lone place).code
  String.ofList (quote :: t.symbols.flatMap escape ++ [quote])

/-- Bytes keep the visible ASCII characters and escape all others. -/
def bytes (bs : List UInt8) : String :=
  String.ofList ('b' :: encode (fun c => 0x20 ≤ c.toNat && c.toNat < 0x7F) (bs.map fun b => Char.ofNat b.toNat))

example : text "it's" = "\x22it's\x22" := by decide +kernel

example : bytes [0x61, 0xFF, 0x0A] = "b'a\\xff\\n'" := by cbv

end Retention.Text.Quoted
