import Retention.Database.Locator

/-! # File paths

A path is a list of parts between slashes; its normal form has no detours. What exists decides which paths lead somewhere.
-/

namespace Retention.Database

/-- Adds a part to a path: a point stays, two points go up. -/
def addPart (parts : List (List Char)) (part : List Char) : List (List Char) :=
  if part = [] ∨ part = ['.'] then parts
  else if part = ['.', '.'] then parts.dropLast
  else parts ++ [part]

/-- The text of a path from its parts, which are below the root if the path that they come from is. -/
def pathText (path : String) (parts : List (List Char)) : String :=
  let root := if path.toList.head? = some '/' then "/" else ""
  root ++ "/".intercalate (parts.map String.ofList)

def onTheWay (reached : List (List Char)) : List (List Char) → List (List (List Char))
  | [] => []
  | part :: rest => addPart reached part :: onTheWay (addPart reached part) rest

def normalPath (path : String) : String :=
  pathText path ((Text.splitOn '/' path.toList).foldl addPart [])

/-- The normal paths on the way along a path; the last is its own normal form. -/
def passed (path : String) : List String :=
  (onTheWay [] (Text.splitOn '/' path.toList)).map (pathText path)

def staysBelow (reached : List (List Char)) : List (List Char) → Bool
  | [] => true
  | part :: rest => (part != ['.', '.'] || !reached.isEmpty) && staysBelow (addPart reached part) rest

def staysBelowRoot (path : String) : Bool :=
  match Text.splitOn '/' path.toList with
  | [] :: parts => staysBelow [] parts
  | _ => true

def splitPath (path : String) : String × String :=
  match Locator.splitLast? '/' path.toList with
  | some ([], name) => ("/", String.ofList name)
  | some (front, name) => (String.ofList front, String.ofList name)
  | none => ("", path)

/-- The directories and files that exist, by their normal paths. -/
structure Files where
  isDirectory : String → Bool
  isFile : String → Bool

namespace Files

def reaches (files : Files) (path : String) : Bool :=
  path != "" && (passed path).dropLast.all files.isDirectory &&
    (files.isDirectory (normalPath path) || files.isFile (normalPath path))

def nameLimit : Nat := 255

def pathLimit : Nat := 504

/-- The path stays below the root, no name on the way is too long or stands behind a file, and the normal path is not too
long. -/
def canName (files : Files) (path : String) : Bool :=
  staysBelowRoot path && (normalPath path).utf8ByteSize ≤ pathLimit &&
    (passed path).all fun p => (splitPath p).2.utf8ByteSize ≤ nameLimit && !files.isFile (splitPath p).1

end Files

example : normalPath "/a/./b//../c" = "/a/c" := by decide +kernel

example : (["/../a", "/a/../../b", "/a/.././b", "../a"].map staysBelowRoot) = [false, false, true, true] := by decide +kernel

example : passed "/a/../b" = ["/", "/a", "/", "/b"] := by decide +kernel

end Retention.Database
