import Retention.Database.Engine
import Retention.Run.Opening

/-! # One installation

What comes of opening a URL with the dialects and drivers of one installation. A run takes the faults of opening as they
come; the command has them from here.
-/

namespace Retention.Database

open Run

/-- The faults of opening a URL. An engine is made for a loose URL as for one with replacement marks, but it cannot connect. -/
def faultsOf (s : Surroundings) (url : Text.Loose) : StepFaults :=
  match Engine.ofUrl url.faces with
  | .error e => { StepFaults.none with create := some (.outside e.toCause) }
  | .ok engine =>
    match url.unencodable? with
    | some u => { StepFaults.none with connect := some (.ofMishap .encoding u.message) }
    | none => { StepFaults.none with connect := (engine.connectError? s).map .outside }

end Retention.Database
