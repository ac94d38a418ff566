import Retention.Calendar.Months
import Retention.Value.Whole

/-! # The cutoff

Composes created before the cutoff have expired. It lies a number of months before the present; the number may be any
value that is an integer.
-/

namespace Retention.Calendar

inductive NoCutoff where
  | notWhole (reason : Unwhole)
  | fraction
  | unreachable (reason : Unreachable)
  deriving DecidableEq, Repr

def Unreachable.toMishap : Unreachable → Mishap
  | .year n => ⟨.value, "year " ++ toString n ++ " is out of range"⟩
  | .yearBelowWord => ⟨.overflow, "signed integer is less than minimum"⟩
  | .yearAboveWord => ⟨.overflow, "signed integer is greater than maximum"⟩
  | .yearBeyondLongWord => ⟨.overflow, "Python int too large to convert to C long"⟩
  | .monthsBeyondDoubles => ⟨.overflow, "int too large to convert to float"⟩

def NoCutoff.toMishap : NoCutoff → Mishap
  | .notWhole reason => reason.toMishap
  | .fraction => ⟨.value, "Non-integer years and months are ambiguous and not currently supported."⟩
  | .unreachable reason => reason.toMishap

def monthCount (months : Value) : Except NoCutoff Int := do
  let n ← months.toWhole.mapError .notWhole
  if months.toInt? = some n then return n
  throw .fraction

/-- The moment that lies a number of months back. -/
def cutoff (now : Moment) (months : Value) : Except NoCutoff Moment := do
  let n ← monthCount months
  (now.minusMonths n).mapError .unreachable

theorem monthCount_int (n : Int) : monthCount (.int n) = .ok n := by
  simp [monthCount, Value.toWhole, Value.toInt?, bind, Except.bind, pure, Except.pure]

theorem cutoff_int (now : Moment) (n : Int) :
    cutoff now (.int n) = (now.minusMonths n).mapError .unreachable := by
  simp [cutoff, monthCount_int, bind, Except.bind]

end Retention.Calendar
