/-! # Reading UTF-8

Bytes are read as UTF-8. What is no UTF-8 is replaced: every byte that starts no character, and every start of a character
that is not finished, becomes one replacement mark.
-/

namespace Retention.Text.Utf8

/-- The mark in the place of what is no character. -/
def replacement : Char :=
  Char.ofNat 0xFFFD

/-- A character that has started: the number of bytes to come, the bounds of the next one, and the bits so far. -/
structure Started where
  toCome : Nat
  low : Nat
  high : Nat
  bits : Nat
  deriving DecidableEq, Repr

/-- What a first byte starts; the bounds of the second byte leave out long forms, surrogates and what lies beyond the last
code point. -/
def Started.ofFirst? (b : Nat) : Option Started :=
  if 0xC2 ≤ b ∧ b ≤ 0xDF then some ⟨1, 0x80, 0xBF, b - 0xC0⟩
  else if b = 0xE0 then some ⟨2, 0xA0, 0xBF, 0⟩
  else if b = 0xED then some ⟨2, 0x80, 0x9F, b - 0xE0⟩
  else if 0xE1 ≤ b ∧ b ≤ 0xEF then some ⟨2, 0x80, 0xBF, b - 0xE0⟩
  else if b = 0xF0 then some ⟨3, 0x90, 0xBF, 0⟩
  else if b = 0xF4 then some ⟨3, 0x80, 0x8F, b - 0xF0⟩
  else if 0xF1 ≤ b ∧ b ≤ 0xF3 then some ⟨3, 0x80, 0xBF, b - 0xF0⟩
  else none

def first (b : Nat) : List Char × Option Started :=
  if b < 0x80 then ([Char.ofNat b], none)
  else
    match Started.ofFirst? b with
    | some s => ([], some s)
    | none => ([replacement], none)

/-- Reads a byte: the characters that it brings to an end, and the one that has started. -/
def next (s : Option Started) (b : Nat) : List Char × Option Started :=
  match s with
  | none => first b
  | some s =>
    let bits := 64 * s.bits + (b - 0x80)
    if s.low ≤ b ∧ b ≤ s.high then
      if s.toCome = 1 then ([Char.ofNat bits], none) else ([], some ⟨s.toCome - 1, 0x80, 0xBF, bits⟩)
    else (replacement :: (first b).1, (first b).2)

def readFrom : Option Started → List UInt8 → List Char
  | none, [] => []
  | some _, [] => [replacement]
  | s, b :: rest => (next s b.toNat).1 ++ readFrom (next s b.toNat).2 rest

/-- The text of bytes, with marks in the place of what is no character. -/
def read (bs : List UInt8) : List Char :=
  readFrom none bs

example : String.ofList (read [0x61, 0xC3, 0xA9, 0xF0, 0x9F, 0x98, 0x80]) = "aé😀" := by decide +kernel

example : (read [0xED, 0xA0, 0x80], read [0xF0, 0x9F, 0x61]) =
    ([replacement, replacement, replacement], [replacement, 'a']) := by decide +kernel

end Retention.Text.Utf8
