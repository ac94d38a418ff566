import Retention.Text.Hex
import Retention.Text.Utf8

/-! # Percent-encoding

Every UTF-8 byte outside the unreserved characters is written as a percent sign and two upper-case
hexadecimal digits. Decoding reads the bytes back, with marks in the place of those that are no UTF-8.
-/

namespace Retention.Text.Percent

/-- ASCII letters, digits, and the four unreserved marks. -/
def isUnreserved (n : Nat) : Bool :=
  (0x41 ≤ n && n ≤ 0x5A) || (0x61 ≤ n && n ≤ 0x7A) || (0x30 ≤ n && n ≤ 0x39) ||
  n == 0x5F || n == 0x2E || n == 0x2D || n == 0x7E

def encodeByte (b : UInt8) : List Char :=
  if isUnreserved b.toNat then [Char.ofNat b.toNat]
  else '%' :: (hex 2 b.toNat).map Char.toUpper

def bytes (cs : List Char) : List UInt8 :=
  cs.flatMap String.utf8EncodeChar

def encode (s : String) : String :=
  String.ofList ((bytes s.toList).flatMap encodeByte)

/-- Percent-encoding that keeps the characters of a list. -/
def encodeKeeping (kept : List Char) (s : String) : String :=
  String.ofList (s.toList.flatMap fun c => if kept.contains c then [c] else (bytes [c]).flatMap encodeByte)

/-- The bytes that a percent-encoded text stands for; a percent sign without two digits stands for itself. -/
def decodeBytes : List Char → List UInt8
  | '%' :: a :: b :: rest =>
    match hexValue? a, hexValue? b with
    | some x, some y => UInt8.ofNat (16 * x + y) :: decodeBytes rest
    | _, _ => String.utf8EncodeChar '%' ++ decodeBytes (a :: b :: rest)
  | c :: rest => String.utf8EncodeChar c ++ decodeBytes rest
  | [] => []

def decode? (s : String) : Option String :=
  String.fromUTF8? ⟨(decodeBytes s.toList).toArray⟩

/-- The text that a percent-encoded text stands for; of bytes that are not well formed, as much as can be read. -/
def decode (s : String) : String :=
  (decode? s).getD (String.ofList (Utf8.read (decodeBytes s.toList)))

end Retention.Text.Percent
