import Retention.Database.Connection

/-! # Scripted connections

A scripted connection answers each statement with the next entry of a list.
-/

namespace Retention.Database

/-- The answers that are left. -/
abbrev Script := List (Except Fault Reply)

def exhausted : Fault :=
  .ofMishap .runtime "script exhausted"

def Script.execute (_ : Statement) : Script → Except Fault Reply × Script
  | [] => (.error exhausted, [])
  | entry :: rest => (entry, rest)

/-- Every answer shortens the script. -/
def Script.connection (dialect : String) : Connection Script where
  dialect := dialect
  execute := Script.execute
  budget := List.length
  budget_le st w := by cases w <;> simp [Script.execute]
  budget_lt c w r h _ := by
    cases w with
    | nil => simp [Script.execute] at h
    | cons entry rest => simp [Script.execute]

end Retention.Database
