import Retention.Log.Setup

/-! # Loggers

What a program does with its logging: it puts configurations in force, takes new loggers under names, and calls a logger that
it has taken, or a new one.
-/

namespace Retention.Log

open Calendar

/-- An act of a program that logs. A call without a name is on a new logger. -/
inductive LogAct where
  | configure (level : Value) (format : Format)
  | take (name : String)
  | call (name? : Option String) (now : Moment) (record : Record)
  deriving Repr

inductive LogAnswer where
  | configured (result : Except BadConfig Unit)
  | taken
  | called (result : Except Mishap (Option String))
  deriving Repr

def LogAnswer.printed : LogAnswer → List String
  | .called (.ok line?) => line?.toList
  | _ => []

/-- The setup of logging and the loggers under all names; under a name that was not taken there is a new one. -/
structure Loggers where
  setup : Setup
  named : String → Logger

namespace Loggers

def initial : Loggers := ⟨.initial, fun _ => .fresh⟩

def logger (s : Loggers) : Option String → Logger
  | some name => s.named name
  | none => .fresh

def put (s : Loggers) (name : String) (logger : Logger) : Loggers :=
  { s with named := fun other => if other = name then logger else s.named other }

def act (lib : Library) (s : Loggers) : LogAct → LogAnswer × Loggers
  | .configure level format =>
    let (result, setup) := s.setup.configure level format
    (.configured result, { s with setup })
  | .take name => (.taken, s.put name .fresh)
  | .call name? now r =>
    let (result, logger) := s.setup.call lib (s.logger name?) now r
    (.called result, name?.elim s (s.put · logger))

def after (lib : Library) (s : Loggers) (acts : List LogAct) : Loggers :=
  acts.foldl (fun s a => (s.act lib a).2) s

def answers (lib : Library) (s : Loggers) : List LogAct → List LogAnswer
  | [] => []
  | a :: rest => (s.act lib a).1 :: answers lib (s.act lib a).2 rest

end Loggers
end Retention.Log
