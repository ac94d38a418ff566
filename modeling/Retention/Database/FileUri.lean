import Retention.Database.StoreFile
import Retention.Text.Digit

/-! # File URIs

A name of a store may be a URI, which decodes its path and gives options.
-/

namespace Retention.Database

open Text

inductive BadFileUri where
  | authority (text : String)
  | noAccess (word : String)
  | accessDenied (word : String)
  | noCache (word : String)
  | noSystem (word : String)
  deriving DecidableEq, Repr

def BadFileUri.text : BadFileUri → String
  | .authority text => "invalid uri authority: " ++ text
  | .noAccess word => "no such access mode: " ++ word
  | .accessDenied word => "access mode not allowed: " ++ word
  | .noCache word => "no such cache mode: " ++ word
  | .noSystem word => "no such vfs: " ++ word

structure FileUri where
  path : String
  options : List (String × String)
  deriving DecidableEq, Repr

namespace FileUri

/-- The text of a part of a URI, which ends before an encoded zero. -/
def partText (cs : List Char) : String :=
  String.ofList (Utf8.read ((Percent.decodeBytes cs).takeWhile (· != 0)))

/-- An option has a name; without a value its value is empty. -/
def option? (cs : List Char) : Option (String × String) :=
  let (name, value) := match cutAt? (· == '=') cs with
    | some (name, _, value) => (name, value)
    | none => (cs, [])
  if (partText name).isEmpty then none else some (partText name, partText value)

/-- The path behind an authority, which has to be empty or this host. -/
def behindAuthority (cs : List Char) : Except BadFileUri (List Char) :=
  match cs with
  | '/' :: '/' :: rest =>
    let authority := rest.takeWhile (· != '/')
    if authority.isEmpty || authority == "localhost".toList then .ok (rest.dropWhile (· != '/'))
    else .error (.authority (String.ofList authority))
  | _ => .ok cs

/-- Reads what follows the scheme of a URI; a fragment is dropped. -/
def ofRest (cs : List Char) : Except BadFileUri FileUri := do
  let shown := (← behindAuthority cs).takeWhile (· != '#')
  let options := (shown.dropWhile (· != '?')).drop 1
  return ⟨partText (shown.takeWhile (· != '?')), (Text.splitOn '&' options).filterMap option?⟩

def option (u : FileUri) (name : String) : Option String :=
  (u.options.find? (·.1 == name)).map (·.2)

/-- The number at the front of a text; one that does not fit into thirty-one bits is zero. -/
def frontNumber (cs : List Char) : Nat :=
  let number (base : Nat) (digits : List (Option Nat)) : Nat :=
    let n := ((digits.takeWhile Option.isSome).filterMap id).foldl (fun n d => base * n + d) 0
    if n < Nat.pow 2 31 then n else 0
  match cs with
  | '0' :: x :: rest =>
    if (x = 'x' ∨ x = 'X') ∧ (rest.head?.bind hexValue?).isSome then number 16 (rest.map hexValue?)
    else number 10 (cs.map asciiDigit?)
  | cs => number 10 (cs.map asciiDigit?)

/-- A switch is on by a word in any letter case, or by a number whose last eight bits are not all zero. -/
def isOn (s : String) : Bool :=
  frontNumber s.toList % 256 != 0 || ["on", "yes", "true"].contains s.toLower

def systems : List String :=
  ["unix", "unix-none", "unix-dotfile", "unix-excl", "memdb"]

def cacheModes : List String :=
  ["shared", "private"]

/-- Obeys an option of the access: each may only narrow the one before. -/
def narrow (access : Access) (option : String × String) : Except BadFileUri Access :=
  if option.1 = "mode" then
    match Access.ofWord? option.2 with
    | none => .error (.noAccess option.2)
    | some wanted => if wanted.permittedBy access then .ok wanted else .error (.accessDenied option.2)
  else if option.1 = "cache" ∧ option.2 ∉ cacheModes then .error (.noCache option.2)
  else .ok access

def place (u : FileUri) : Except BadFileUri Place := do
  let access ← u.options.foldlM narrow .create
  let system? := (u.options.filter (·.1 == "vfs")).getLast?.map (·.2)
  if let some system := system? then
    if !systems.contains system then throw (.noSystem system)
  if access = .memory || system? == some "memdb" || u.path == "" || u.path == ":memory:" then return .memory
  return .file ⟨u.path, access, (u.option "immutable").any isOn, u.option "modeof"⟩

example : (["1x", "0x100", "TRUE", "256", "+1", "2147483648", ""].map isOn) =
    [true, false, true, false, false, false, false] := by decide +kernel

end FileUri

def Place.ofUri (name : String) : Except BadFileUri Place :=
  match dropFront? "file:".toList name.toList with
  | some rest => do (← FileUri.ofRest rest).place
  | none => .ok (.ofName name)

end Retention.Database
