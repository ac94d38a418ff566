import Retention.Database.FileUri
import Retention.Number.RealText
import Retention.Text.Lower

/-! # Links to embedded stores

What an engine needs to connect to a store that it keeps itself: the name of a file, and the options that the query of a
URL gives. Options are read when the engine is made; most are only obeyed, or refused, when it connects.
-/

namespace Retention.Database

open Text

structure StoreLink where
  name : Option String
  isUri : Bool
  detectTypes : Option Int
  hasIsolations : Bool
  cachedStatements : Option Int
  deriving DecidableEq, Repr

inductive NoLink where
  | notAFlag (literal : String)
  | notReal (literal : String)
  | severalReals
  | notWhole (reason : Unwhole)
  | optionsWithoutName
  deriving DecidableEq, Repr

def NoLink.toMishap : NoLink → Mishap
  | .notAFlag literal => ⟨.value, "String is not true/false: " ++ literal⟩
  | .notReal literal => ⟨.value, "could not convert string to float: " ++ literal⟩
  | .severalReals => Locator.severalReals
  | .notWhole reason => reason.toMishap
  | .optionsWithoutName => ⟨.type, "unsupported operand type(s) for +=: 'NoneType' and 'str'"⟩

namespace StoreLink

def flagOf (s : String) : Except NoLink Bool :=
  let word := lower (strip s)
  if ["true", "yes", "on", "y", "t", "1"].contains word then .ok true
  else if ["false", "no", "off", "n", "f", "0"].contains word then .ok false
  else .error (.notAFlag (Quoted.text word))

def realOf (s : String) : Except NoLink Unit :=
  if (RealText.value? s).isSome then .ok () else .error (.notReal (Quoted.text s))

def wholeOf (s : String) : Except NoLink Int :=
  (Value.text s).toWhole.mapError .notWhole

/-- An option that may be missing; several values of one name are another kind of value. -/
def option {α : Type} (l : Locator) (name : String) (one : String → Except NoLink α) (several : Except NoLink α) :
    Except NoLink (Option α) :=
  match l.values name with
  | [] => .ok none
  | [s] => (one s).map some
  | _ => several.map some

def severalWhole : Except NoLink Int :=
  .error (.notWhole (.notANumber "tuple"))

def ownOptions : List String :=
  ["uri", "timeout", "isolation_level", "detect_types", "check_same_thread", "cached_statements"]

/-- The name of a URI goes on with the options that are not the own ones of the link. -/
def uriName (l : Locator) : Except NoLink (Option String) :=
  let others := l.without ownOptions
  let items := others.queryNames.map fun name => name ++ "=" ++ Locator.valuesText (others.values name)
  match l.database, items with
  | name, [] => .ok name
  | some name, items => .ok (some (name ++ "?" ++ "&".intercalate items))
  | none, _ => .error .optionsWithoutName

/-- A store without a name is kept in memory. -/
def plainName (l : Locator) : String :=
  match l.database with
  | none | some "" => ":memory:"
  | some name => name

def ofLocator (l : Locator) : Except NoLink StoreLink := do
  let isUri ← option l "uri" flagOf (.ok true)
  let _ ← option l "timeout" realOf (.error .severalReals)
  let detectTypes ← option l "detect_types" wholeOf severalWhole
  let _ ← option l "check_same_thread" flagOf (.ok true)
  let cachedStatements ← option l "cached_statements" wholeOf severalWhole
  let name ← if isUri = some true then uriName l else pure (some (plainName l))
  return ⟨name, isUri = some true, detectTypes, (l.values "isolation_level").length > 1, cachedStatements⟩

def isTooLarge (n : Int) : Bool :=
  n < -Nat.pow 2 31 || Nat.pow 2 31 ≤ n

def tooLarge : Cause :=
  .mishap ⟨.overflow, "Python int too large to convert to C int"⟩

def storeError (text : String) : Cause :=
  .driver ⟨.operational, some "sqlite3.OperationalError", text⟩

def place (link : StoreLink) : Except Cause Place := do
  if link.detectTypes.any isTooLarge then throw tooLarge
  if link.hasIsolations then
    throw (.mishap ⟨.value, "isolation_level string must be '', 'DEFERRED', 'IMMEDIATE', or 'EXCLUSIVE'"⟩)
  if link.cachedStatements.any isTooLarge then throw tooLarge
  match link.name with
  | none => throw (.mishap ⟨.type, "expected str, bytes or os.PathLike object, not NoneType"⟩)
  | some name =>
    if name.toList.contains '\x00' then throw (.mishap ⟨.value, "embedded null byte"⟩)
    if link.isUri then (Place.ofUri name).mapError fun bad => storeError bad.text
    else return (Place.ofName name).normal

def connectError? (files : Files) (link : StoreLink) : Option Cause :=
  match link.place with
  | .error cause => some cause
  | .ok place => (place.failure? files).map fun failure => storeError failure.text

end StoreLink
end Retention.Database
