import Retention.Log.Key
import Retention.Text.Blank

/-! # Redaction

Values under the names of secrets are replaced, and so are passwords between a user name and a host in URLs inside other
texts. Matches are taken from the left; within a match every run is as long as its class allows, so a match is unique.
-/

namespace Retention.Log

open Text

def secretNames : List String :=
  ["password", "pg_password", "pgpassword"]

/-- Letter case does not matter; no character beyond ASCII has one of these letters as its lower case. -/
def isSecretName (name : String) : Bool :=
  secretNames.contains name.toLower

def redactedMark : List Char :=
  "[REDACTED]".toList

def isSchemeStart (c : Char) : Bool :=
  'a' ≤ c && c ≤ 'z'

def isSchemeChar (c : Char) : Bool :=
  isSchemeStart c || ('0' ≤ c && c ≤ '9') || c == '+' || c == '.' || c == '-'

def isUserChar (c : Char) : Bool :=
  !(c == ':' || c == '/' || c == '@' || isSpacing c)

def isPasswordChar (c : Char) : Bool :=
  !(c == '@' || isSpacing c)

/-- Credentials at the front of a text: what stands before the colon of the password, the password, and what follows the
at sign behind it. -/
structure Credentials where
  before : List Char
  password : List Char
  after : List Char

/-- A scheme, the separator, a user name, a colon, a password that is not empty, and an at sign. -/
def credentials? (cs : List Char) : Option Credentials :=
  match cs with
  | [] => none
  | c :: tail =>
    if isSchemeStart c then
      match tail.dropWhile isSchemeChar with
      | ':' :: '/' :: '/' :: rest =>
        match rest.dropWhile isUserChar with
        | ':' :: secret =>
          match secret.takeWhile isPasswordChar, secret.dropWhile isPasswordChar with
          | p :: ps, '@' :: after =>
            some
              { before := c :: tail.takeWhile isSchemeChar ++ ':' :: '/' :: '/' :: rest.takeWhile isUserChar
                password := p :: ps
                after }
          | _, _ => none
        | _ => none
      | _ => none
    else none

theorem credentials?_eq {cs : List Char} {m : Credentials} (h : credentials? cs = some m) :
    cs = m.before ++ ':' :: m.password ++ '@' :: m.after := by
  unfold credentials? at h
  split at h
  · simp at h
  · rename_i c tail
    split at h
    · split at h
      · rename_i rest hrest
        split at h
        · rename_i secret hsecret
          split at h
          · rename_i p ps after hp ha
            obtain rfl := Option.some.inj h
            have h₁ := List.takeWhile_append_dropWhile (p := isSchemeChar) (l := tail)
            have h₂ := List.takeWhile_append_dropWhile (p := isUserChar) (l := rest)
            have h₃ := List.takeWhile_append_dropWhile (p := isPasswordChar) (l := secret)
            rw [hrest] at h₁
            rw [hsecret] at h₂
            rw [hp, ha] at h₃
            simp only [List.cons_append, List.append_assoc] at h₃ ⊢
            conv => lhs; rw [← h₁, ← h₂, ← h₃]
          · simp at h
        · simp at h
      · simp at h
    · simp at h

theorem length_after_lt {cs : List Char} {m : Credentials} (h : credentials? cs = some m) :
    m.after.length < cs.length := by
  have := congrArg List.length (credentials?_eq h)
  simp at this
  omega

/-- Replaces every password, from the left. -/
def redactChars (cs : List Char) : List Char :=
  match _h : credentials? cs with
  | some m => m.before ++ ':' :: redactedMark ++ '@' :: redactChars m.after
  | none =>
    match cs with
    | [] => []
    | c :: rest => c :: redactChars rest
termination_by cs.length
decreasing_by
  · exact length_after_lt _h
  · simp

def redactText (s : String) : String :=
  String.ofList (redactChars s.toList)

/-- Replaces every password among characters and surrogates; it is found where it would be with other characters in the
place of the surrogates. -/
def redactSymbols (cs : List Symbol) : List Symbol :=
  match _h : credentials? (cs.map Symbol.face) with
  | some m =>
    cs.take (m.before.length + 1) ++ (redactedMark ++ ['@']).map .char ++
      redactSymbols (cs.drop (m.before.length + m.password.length + 2))
  | none =>
    match cs with
    | [] => []
    | c :: rest => c :: redactSymbols rest
termination_by cs.length
decreasing_by
  · have hlt := length_after_lt _h
    simp only [List.length_map] at hlt
    simp only [List.length_drop]
    omega
  · simp

def redactLoose (t : Loose) : Loose :=
  ⟨redactSymbols t.symbols⟩

def redactValue (name? : Option String) (value : Value) : Value :=
  if name?.any isSecretName then .text (String.ofList redactedMark)
  else
    match value with
    | .text s => .text (redactText s)
    | .loose t => .loose (redactLoose t)
    | v => v

def redactEvent (entries : List (Key × Value)) : List (Key × Value) :=
  entries.map fun (k, v) => (k, redactValue k.name? v)

def redactFields (fields : List (String × Value)) : List (String × Value) :=
  fields.map fun (k, v) => (k, redactValue (some k) v)

end Retention.Log
