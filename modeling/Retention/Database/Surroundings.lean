import Retention.Database.FilePath

/-! # Surroundings

What an engine finds around it when it connects: files, and the variables of its process.
-/

namespace Retention.Database

/-- The files that exist and the variables that are set, by their exact names. -/
structure Surroundings where
  files : Files
  getVariable : String → Option String

namespace Surroundings

def has (s : Surroundings) (path : String) : Bool :=
  s.files.isDirectory (normalPath path) || s.files.isFile (normalPath path)

end Surroundings
end Retention.Database
