import Retention.Text.Loose

/-! # Environments

An environment is a list of named texts in the order in which the names were first set. Names that differ in letter case
are distinct entries. A value may be a loose text; a name that is one belongs to no setting and is left out.
-/

namespace Retention.Settings

open Text

/-- Named texts, oldest name first. -/
structure Environment where
  entries : List (String × Loose)
  deriving DecidableEq, Repr

namespace Environment

def empty : Environment := ⟨[]⟩

/-- A name that is set keeps its place. -/
def set (env : Environment) (name : String) (value : Loose) : Environment :=
  if env.entries.any (·.1 == name) then
    ⟨env.entries.map fun e => if e.1 == name then (name, value) else e⟩
  else ⟨env.entries ++ [(name, value)]⟩

def unset (env : Environment) (name : String) : Environment :=
  ⟨env.entries.filter (·.1 != name)⟩

def ofPairs (pairs : List (String × Loose)) : Environment :=
  pairs.foldl (fun env p => env.set p.1 p.2) empty

def value? (env : Environment) (name : String) : Option Loose :=
  (env.entries.find? fun e => e.1 == name).map (·.2)

/-- The value with replacement marks for surrogates. -/
def text? (env : Environment) (name : String) : Option String :=
  (env.value? name).map Loose.faces

end Environment
end Retention.Settings
