import Retention.Text.Blank
import Retention.Text.Hex

/-! # Loose texts

A text that may hold surrogates that stand alone. They are no characters: a byte of the environment that is no UTF-8 is read as
one, and no text with one can be encoded.
-/

namespace Retention.Text

/-- A code point: a character, or a lone surrogate by its place among the surrogates. -/
inductive Symbol where
  | char (c : Char)
  | lone (place : Fin 0x800)
  deriving DecidableEq, Repr

namespace Symbol

def isChar : Symbol → Bool
  | .char _ => true
  | .lone _ => false

/-- The code point; the first surrogate is U+D800. -/
def code : Symbol → Nat
  | .char c => c.toNat
  | .lone place => 0xD800 + place

/-- The character that a symbol is; a lone surrogate belongs to the classes of characters that the replacement mark is in. -/
def face : Symbol → Char
  | .char c => c
  | .lone _ => '\uFFFD'

/-- The surrogate that stands for a byte. -/
def ofByte (b : UInt8) : Symbol :=
  .lone ⟨0x400 + b.toNat, by have := b.toNat_lt; omega⟩

end Symbol

structure Loose where
  symbols : List Symbol
  deriving DecidableEq, Repr

/-- The first surrogates that keep a text from being encoded: their place, their number, and the first of them. -/
structure Unencodable where
  position : Nat
  count : Nat
  first : Nat
  deriving DecidableEq, Repr

def Unencodable.message (u : Unencodable) : String :=
  let culprit :=
    if u.count = 1 then " '\\u" ++ String.ofList (hex 4 u.first) ++ "' in position " ++ toString u.position
    else "s in position " ++ toString u.position ++ "-" ++ toString (u.position + u.count - 1)
  "'utf-8' codec can't encode character" ++ culprit ++ ": surrogates not allowed"

namespace Loose

def ofString (s : String) : Loose :=
  ⟨s.toList.map .char⟩

instance : Coe String Loose := ⟨ofString⟩

instance : Append Loose := ⟨fun t u => ⟨t.symbols ++ u.symbols⟩⟩

def firstChar? (bs : List UInt8) : Option Char :=
  [1, 2, 3, 4].findSome? fun n => (String.fromUTF8? ⟨(bs.take n).toArray⟩).bind (·.toList.head?)

/-- The symbols of bytes, some of which belong to a character that has been read. -/
def symbolsOfBytes : Nat → List UInt8 → List Symbol
  | _, [] => []
  | read + 1, _ :: rest => symbolsOfBytes read rest
  | 0, b :: rest =>
    match firstChar? (b :: rest) with
    | some c => .char c :: symbolsOfBytes (c.utf8Size - 1) rest
    | none => .ofByte b :: symbolsOfBytes 0 rest

/-- The text of bytes in UTF-8; a byte that belongs to no character stands alone. -/
def ofBytes (bs : List UInt8) : Loose :=
  ⟨symbolsOfBytes 0 bs⟩

def isEmpty (t : Loose) : Bool :=
  t.symbols.isEmpty

/-- The text with replacement marks for the surrogates. -/
def faces (t : Loose) : String :=
  String.ofList (t.symbols.map Symbol.face)

def unencodable? (t : Loose) : Option Unencodable :=
  match t.symbols.dropWhile Symbol.isChar with
  | [] => none
  | s :: rest =>
    some ⟨(t.symbols.takeWhile Symbol.isChar).length, (rest.takeWhile (!·.isChar)).length + 1, s.code⟩

/-- The text if it is made of characters. -/
def plain (t : Loose) : Except Unencodable String :=
  match t.unencodable? with
  | some u => .error u
  | none => .ok t.faces

def strip (t : Loose) : Loose :=
  ⟨trim (isSpacing ·.face) t.symbols⟩

def isBlank (t : Loose) : Bool :=
  t.symbols.all (isSpacing ·.face)

@[simp] theorem symbols_ofString (s : String) : (ofString s).symbols = s.toList.map .char := rfl

@[simp] theorem symbols_append (t u : Loose) : (t ++ u).symbols = t.symbols ++ u.symbols := rfl

example : (ofBytes [0x61, 0xE9]).unencodable?.map Unencodable.message =
    some "'utf-8' codec can't encode character '\\udce9' in position 1: surrogates not allowed" := by
  decide +kernel

end Loose
end Retention.Text
