import Retention.Run.Session

/-! # Views of a journal

What a journal says about records, statements and replies, each in order.
-/

namespace Retention.Run

open Database

namespace Event

def record? : Event → Option Log.Record
  | .logged r => some r
  | _ => none

def statement? : Event → Option Statement
  | .executed st => some st
  | _ => none

def step? : Event → Option Step
  | .stepped s => some s
  | _ => none

end Event

def logged (journal : List Event) : List Log.Record :=
  journal.filterMap Event.record?

def executed (journal : List Event) : List Statement :=
  journal.filterMap Event.statement?

def steps (journal : List Event) : List Step :=
  journal.filterMap Event.step?

def bumpLast : List Nat → List Nat
  | [] => []
  | [n] => [n + 1]
  | n :: m :: rest => n :: bumpLast (m :: rest)

/-- For each reply, how often it was closed; a closing concerns the last reply. -/
def closings (journal : List Event) : List Nat :=
  journal.foldl (fun counts e =>
    match e with
    | .answered => counts ++ [0]
    | .closed => bumpLast counts
    | _ => counts) []

theorem logged_append (a b : List Event) : logged (a ++ b) = logged a ++ logged b :=
  List.filterMap_append

theorem executed_append (a b : List Event) : executed (a ++ b) = executed a ++ executed b :=
  List.filterMap_append

theorem steps_append (a b : List Event) : steps (a ++ b) = steps a ++ steps b :=
  List.filterMap_append

end Retention.Run
