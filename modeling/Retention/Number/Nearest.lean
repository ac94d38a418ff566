/-! # Nearest integers

The integer nearest to a quotient, the even one of two as near.
-/

namespace Retention

/-- Rounds a quotient; a half goes to the even neighbour. -/
def nearestQuotient (n d : Nat) : Nat :=
  let q := n / d
  let twice := 2 * (n % d)
  if twice < d ∨ (twice = d ∧ q % 2 = 0) then q else q + 1

example : (nearestQuotient 5 2, nearestQuotient 7 2, nearestQuotient 8 3) = (2, 4, 3) := by decide

end Retention
