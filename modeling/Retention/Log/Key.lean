import Retention.Value.Basic

/-! # Keys of log fields

A key is any scalar. Numbers are the same key when they are equal, whatever their type.
-/

namespace Retention.Log

inductive Key where
  | null
  | bool (b : Bool)
  | int (n : Int)
  | float (x : Binary64)
  | text (s : String)
  deriving DecidableEq, Repr

namespace Key

def toInt? : Key → Option Int
  | .bool b => some (if b then 1 else 0)
  | .int n => some n
  | .float x => x.toInt?
  | _ => none

def same (a b : Key) : Bool :=
  match a.toInt?, b.toInt? with
  | some m, some n => m == n
  | none, none => decide (a = b)
  | _, _ => false

/-- The name of a key; only text can be the name of a secret. -/
def name? : Key → Option String
  | .text s => some s
  | _ => none

end Key

/-- Sets a key: a key keeps its first place and takes the new value. -/
def put {κ α : Type} (same : κ → κ → Bool) (key : κ) (value : α) : List (κ × α) → List (κ × α)
  | [] => [(key, value)]
  | (k, v) :: rest => if same k key then (k, value) :: rest else (k, v) :: put same key value rest

def ofPairs {κ α : Type} (same : κ → κ → Bool) (pairs : List (κ × α)) : List (κ × α) :=
  pairs.foldl (fun entries p => put same p.1 p.2 entries) []

end Retention.Log
