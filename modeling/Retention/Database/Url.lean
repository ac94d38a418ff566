import Retention.Fault
import Retention.Text.Front
import Retention.Value.Basic

/-! # Database URLs

The URL that is opened names the driver for PostgreSQL.
-/

namespace Retention.Database

open Text

/-- The schemes that leave the driver open. -/
def longScheme : List Char :=
  "postgresql://".toList

def shortScheme : List Char :=
  "postgres://".toList

def driverScheme : List Char :=
  "postgresql+psycopg://".toList

def schemeOf (url : List Char) : List Char :=
  (cutPart? "://".toList url).elim url (·.1)

/-- Names the driver where the scheme leaves it open. -/
def withDriver (url : String) : String :=
  let cs := url.toList
  if startsWith longScheme cs && !(schemeOf cs).contains '+' then
    String.ofList (replaceFirst longScheme driverScheme cs)
  else if startsWith shortScheme cs then String.ofList (replaceFirst shortScheme driverScheme cs)
  else url

/-- Only text can be a URL; bytes have fronts, but no text is one. -/
def urlOfValue : Value → Except Mishap String
  | .text url => .ok (withDriver url)
  | .bytes _ => .error ⟨.type, "startswith first arg must be bytes or a tuple of bytes, not str"⟩
  | v => .error ⟨.attribute, "'" ++ v.typeName ++ "' object has no attribute 'startswith'"⟩

example : withDriver "postgres://a+b://c" = "postgresql+psycopg://a+b://c" := by decide +kernel

example : withDriver "sqlite://" = "sqlite://" := by decide +kernel

end Retention.Database
