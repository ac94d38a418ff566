import Retention.Database.FilePath

/-! # Files of stores

Where a store is kept: in memory, or in a file. A file can be opened in an existing directory.
-/

namespace Retention.Database

/-- How a file may be used; a store that is only kept in memory uses none. -/
inductive Access where
  | readOnly
  | readWrite
  | create
  | memory
  deriving DecidableEq, Repr

namespace Access

def ofWord? : String → Option Access
  | "ro" => some .readOnly
  | "rw" => some .readWrite
  | "rwc" => some .create
  | "memory" => some .memory
  | _ => none

/-- The second access permits the first. -/
def permittedBy : Access → Access → Bool
  | .memory, _ | _, .memory | _, .create => true
  | .readOnly, _ => true
  | .readWrite, .readWrite => true
  | _, _ => false

end Access

/-- A file in use: how it may be used, whether it is taken to never change, and the path of the file whose permissions a new
one gets. -/
structure FileUse where
  path : String
  access : Access
  isFixed : Bool
  pattern : Option String
  deriving DecidableEq, Repr

inductive Place where
  | memory
  | file (use : FileUse)
  deriving DecidableEq, Repr

namespace Place

/-- Where a store is kept whose name is not decoded. -/
def ofName (name : String) : Place :=
  if name = "" ∨ name = ":memory:" then .memory else .file ⟨name, .create, false, none⟩

def normal : Place → Place
  | .memory => .memory
  | .file use => .file { use with path := normalPath use.path }

def isReadOnly : Place → Bool
  | .memory => false
  | .file use => use.access == .readOnly || use.isFixed

def path? : Place → Option String
  | .memory => none
  | .file use => some (normalPath use.path)

def asked : Place → List String
  | .memory => []
  | .file use => (passed use.path ++ (use.pattern.map passed).getD []).flatMap fun p => [p, (splitPath p).1]

end Place

inductive Unopened where
  | cannotOpen
  | unreadable
  deriving DecidableEq, Repr

def Unopened.text : Unopened → String
  | .cannotOpen => "unable to open database file"
  | .unreadable => "disk I/O error"

/-- What goes wrong when a file is opened. Only full access makes a new one; a directory can be opened to be read, but holds
nothing to read. -/
def FileUse.failure? (files : Files) (use : FileUse) : Option Unopened :=
  let path := normalPath use.path
  if !files.canName use.path then some .cannotOpen
  else if use.pattern.any (!files.reaches ·) then some .unreadable
  else if !files.isDirectory (splitPath path).1 then some .cannotOpen
  else if files.isDirectory path then some (if use.access = .readOnly then .unreadable else .cannotOpen)
  else if use.access = .create ∨ files.isFile path then none
  else some .cannotOpen

def Place.failure? (files : Files) : Place → Option Unopened
  | .memory => none
  | .file use => use.failure? files

end Retention.Database
