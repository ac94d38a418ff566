import Retention.Run.Report

/-! # Opening a connection

A connection is held for the duration of a body. It is closed and its engine disposed on every way out; a fault of a later
step replaces the one under way.
-/

namespace Retention.Run

variable {σ : Type}

structure StepFaults where
  create : Option Fault
  connect : Option Fault
  options : Option Fault
  close : Option Fault
  dispose : Option Fault

namespace StepFaults

def none : StepFaults := ⟨.none, .none, .none, .none, .none⟩

end StepFaults

/-- Every statement commits on its own, which reclaiming space needs. -/
def isolation : String := "AUTOCOMMIT"

/-- What a fault of a step is when it leaves. The connection is held by a generator: the end of an iteration cannot leave
one, unless it was the body that raised it. -/
def Step.leaving (s : Step) : Fault → Fault
  | .outside (.mishap ⟨.stop, text⟩) =>
    if s = .body then .ofMishap .stop text else .ofMishap .runtime "generator raised StopIteration"
  | f => f

def step (s : Step) (fault : Option Fault) : Job σ Unit := do
  Job.note (.stepped s)
  Job.failIf (fault.map s.leaving)

def openConnection (faults : StepFaults) (url : Text.Loose) (body : Job σ Unit) : Job σ Unit := do
  Job.note (.stepped (.url url))
  (step .create faults.create).mapFault (wrapDriver .connection "Invalid database URL: ")
  let connected : Job σ Unit := do
    Job.note (.stepped (.isolation isolation))
    step .options faults.options
    body
  let opened : Job σ Unit := do
    (step .connect faults.connect).mapFault (wrapDriver .connection "Error connecting to database: ")
    connected.always (step .close faults.close)
  opened.always (step .dispose faults.dispose)

/-- Holds a connection that is taken and released as a whole. -/
def borrowConnection (connect release : Option Fault) (url : Text.Loose) (body : Job σ Unit) : Job σ Unit := do
  Job.note (.connected url)
  Job.failIf connect
  body.always do
    Job.note .released
    Job.failIf release

end Retention.Run
