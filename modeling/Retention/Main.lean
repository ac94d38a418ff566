import Retention.Clock
import Retention.Database.Installation
import Retention.Database.Trial
import Retention.Log.Layout
import Retention.Process

/-! # The command

Reads the environment, the clock and the files that an engine asks for, runs the process over a store in memory, and prints
the lines.
-/

namespace Retention.Command

open Calendar Database Run Settings

/-- The name and value of an entry, which is cut at the first equals sign. A name that cannot be encoded is left out. -/
def entryOf? (entry : List UInt8) : Option (String × Text.Loose) := do
  let (name, _, value) ← Text.cutAt? (· == 0x3D) entry
  return (← (Text.Loose.ofBytes name).plain.toOption, .ofBytes value)

/-- The environment of a block of entries that end in zero bytes. -/
def environmentOf (block : List UInt8) : Environment :=
  .ofPairs ((Text.splitOn 0x00 block).filterMap entryOf?)

def readEnvironment : IO Environment := do
  let block ← IO.FS.readBinFile "/proc/self/environ"
  return environmentOf block.toList

def askedBy (env : Environment) : List String :=
  ((checkedSettings env).toOption.bind fun s =>
    (Engine.ofUrl s.url.faces).toOption.map (Engine.asked env.text?)).getD []

def existing (paths : List String) : IO Files := do
  let here ← IO.currentDir
  let directories ← paths.filterM fun (path : String) => (here / path).isDir
  let present ← paths.filterM fun (path : String) => (here / path).pathExists
  return ⟨directories.contains, fun path => present.contains path && !directories.contains path⟩

end Retention.Command

open Retention Retention.Command

def main : IO UInt32 := do
  let env ← readEnvironment
  let files ← existing (askedBy env)
  let now ← Calendar.Moment.now
  let connect (url : Text.Loose) := Run.openConnection (Database.faultsOf ⟨files, env.text?⟩ url) url
  let site : Run.Site Database.Trial := ⟨Database.Trial.connection "sqlite", connect⟩
  let outcome := process (.usual "") env site now (.quiet .bare)
  for line in outcome.lines (.usual "") now do
    IO.println line
  match outcome.exit with
  | .status code => return UInt32.ofNat code
  | .crashed cause =>
    IO.eprintln cause.message
    return 1
