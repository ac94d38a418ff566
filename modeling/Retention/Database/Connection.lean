import Retention.Database.Statement
import Retention.Fault
import Retention.Number.Quantity

/-! # Connections

A connection answers statements and may change its world with each. A world has a budget that no statement raises and that
every reported deletion of composes lowers, so deletions come to an end.
-/

namespace Retention.Database

/-- A number of affected rows as it was reported: a number of any kind, or a truth value that counts as zero or one. -/
inductive Rows where
  | number (n : Nat)
  | flag (b : Bool)
  | real (x : Binary64)
  | decimal (d : Decimal)
  deriving DecidableEq, Repr

namespace Rows

def quantity : Rows → Quantity
  | .number n => .whole n
  | .flag b => .whole (if b then 1 else 0)
  | .real x => .real x
  | .decimal d => .decimal d

def isZero : Rows → Bool
  | .number n => n == 0
  | .flag b => !b
  | .real x => x.isZero
  | .decimal d => d.isZero

def toValue : Rows → Value
  | .number n => .int n
  | .flag b => .bool b
  | .real x => .float x
  | .decimal d => .decimal d

end Rows

/-- The answer to a statement: a row count, a scalar, and rows that may be cut short by a fault. -/
structure Reply where
  rowCount : Value
  scalar : Except Fault Value
  rows : List Value
  fetchFault : Option Fault
  closeFault : Option Fault

namespace Reply

def empty : Reply := ⟨.int 0, .ok .null, [], none, none⟩

def counting (n : Nat) : Reply := { empty with rowCount := .int n }

def holding (n : Nat) : Reply := { empty with scalar := .ok (.int n) }

/-- The affected rows; an unknown number, which is below zero, is none. -/
def affected (r : Reply) : Except Mishap Rows :=
  match r.rowCount with
  | .int n => .ok (.number n.toNat)
  | .bool b => .ok (.flag b)
  | .float x => .ok (if x.isBelowZero then .number 0 else .real x)
  | .decimal d => do return if ← d.isBelowZero then .number 0 else .decimal d
  | v => .error ⟨.type, "'>' not supported between instances of 'int' and '" ++ v.typeName ++ "'"⟩

def Affects (r : Reply) : Prop :=
  ∃ rows, r.affected = .ok rows ∧ rows.isZero = false

theorem affected_counting (n : Nat) : (counting n).affected = .ok (.number n) := rfl

theorem affects_counting_iff {n : Nat} : (counting n).Affects ↔ n ≠ 0 := by
  simp [Affects, affected_counting, Rows.isZero]

end Reply

structure Connection (σ : Type) where
  dialect : String
  execute : Statement → σ → Except Fault Reply × σ
  budget : σ → Nat
  budget_le : ∀ st w, budget (execute st w).2 ≤ budget w
  budget_lt : ∀ c w r, (execute (.deleteComposes c) w).1 = .ok r → r.Affects →
    budget (execute (.deleteComposes c) w).2 < budget w

end Retention.Database
