import Retention.Value.Basic

/-! # Faults

What can go wrong in a job: the driver fails, something outside the database fails, or the job gives up with an error of
its own that remembers the cause.
-/

namespace Retention

inductive DriverErrorKind where
  | general
  | noRow
  | operational
  | integrity
  | argument
  | plugin
  | programming
  | other (name : String) (code : Option String)
  deriving DecidableEq, Repr

/-- A driver error; `origin` names the class of the error that it wraps. -/
structure DriverError where
  kind : DriverErrorKind
  origin : Option String
  text : String
  deriving DecidableEq, Repr

namespace DriverErrorKind

def code? : DriverErrorKind → Option String
  | .operational => some "e3q8"
  | .integrity => some "gkpj"
  | .programming => some "f405"
  | .other _ code => code
  | _ => none

end DriverErrorKind

namespace DriverError

/-- The wrapped class stands before the text, in parentheses. -/
def described (e : DriverError) : String :=
  match e.origin with
  | some origin => "(" ++ origin ++ ") " ++ e.text
  | none => e.text

/-- A link to the explanation of the class ends the message. -/
def message (e : DriverError) : String :=
  match e.kind.code? with
  | some code => e.described ++ "\n(Background on this error at: https://sqlalche.me/e/21/" ++ code ++ ")"
  | none => e.described

end DriverError

/-- The classes of failures outside the database; `stop` is raised where an iteration ends. -/
inductive MishapKind where
  | value
  | type
  | overflow
  | runtime
  | assertion
  | attribute
  | key
  | integrity
  | operational
  | missingModule
  | missingLibrary
  | settings
  | exit
  | encoding
  | stop
  | other (name : String)
  deriving DecidableEq, Repr

structure Mishap where
  kind : MishapKind
  text : String
  deriving DecidableEq, Repr

/-- What the job did not bring about itself. -/
inductive Cause where
  | driver (error : DriverError)
  | mishap (mishap : Mishap)
  deriving DecidableEq, Repr

def Cause.message : Cause → String
  | .driver e => e.message
  | .mishap m => m.text

/-- The errors of the job, with the table that was worked on and the rows that were changed. -/
inductive JobErrorKind where
  | general
  | connection
  | deletion (table rowsAffected : Value)
  | reclaim
  | stats
  | count (table : Value)
  deriving Repr

namespace JobErrorKind

def name : JobErrorKind → String
  | .general => "MaintenanceError"
  | .connection => "DatabaseConnectionError"
  | .deletion .. => "DeletionError"
  | .reclaim => "ReclaimError"
  | .stats => "StatsError"
  | .count _ => "CountError"

def table : JobErrorKind → Value
  | .deletion table _ => table
  | .count table => table
  | _ => .null

def rowsAffected : JobErrorKind → Value
  | .deletion _ rows => rows
  | _ => .null

end JobErrorKind

structure JobError where
  kind : JobErrorKind
  message : String
  cause : Option Cause
  deriving Repr

/-- Whatever ends a step. -/
inductive Fault where
  | outside (cause : Cause)
  | job (error : JobError)
  deriving Repr

namespace Fault

def message : Fault → String
  | .outside c => c.message
  | .job e => e.message

def driver? : Fault → Option DriverError
  | .outside (.driver e) => some e
  | _ => none

def ofMishap (kind : MishapKind) (text : String) : Fault :=
  .outside (.mishap ⟨kind, text⟩)

end Fault
section MapError

variable {ε ε' α : Type} (f : ε → ε')

@[simp] theorem mapError_ok (a : α) : (Except.ok a : Except ε α).mapError f = .ok a := rfl

@[simp] theorem mapError_error (e : ε) : (Except.error e : Except ε α).mapError f = .error (f e) := rfl

variable {f}

theorem mapError_eq_ok_iff {x : Except ε α} {a : α} : x.mapError f = .ok a ↔ x = .ok a := by
  cases x <;> simp

end MapError

end Retention
