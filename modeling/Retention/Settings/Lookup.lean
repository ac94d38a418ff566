import Retention.Settings.Environment
import Retention.Text.Lower
import Retention.Value.Basic

/-! # Looking up settings

How the names of settings are found among the names of an environment, and what the texts found there stand for. Usually
letter case does not matter and every text stands for itself.
-/

namespace Retention.Settings

/-- How an environment is looked up: what stands before the names of settings with one name or with several, whether letter
case matters, whether empty texts are passed over, and the text that stands for no value. -/
structure Lookup where
  front : String
  severalFront : String
  isExact : Bool
  skipsEmpty : Bool
  nullText : Option String
  deriving DecidableEq, Repr

namespace Lookup

def usual : Lookup := ⟨"", "", false, false, none⟩

def names (l : Lookup) : List String → List String
  | [name] => [l.front ++ name]
  | names => names.map (l.severalFront ++ ·)

def finds (l : Lookup) (name entryName : String) : Bool :=
  if l.isExact then entryName == name else Text.lower entryName == Text.lower name

def valueOf (l : Lookup) (text : Text.Loose) : Value :=
  if l.nullText.map Text.Loose.ofString = some text then .null else text

/-- The value of the last entry that is found. -/
def value? (l : Lookup) (env : Environment) (name : String) : Option Value :=
  (env.entries.reverse.find? fun e => l.finds name e.1 && !(l.skipsEmpty && e.2.isEmpty)).map fun e => l.valueOf e.2

end Lookup
end Retention.Settings
