/-! # Classes of characters

A class is given by its ascending bounds: the characters between the first and the second bound belong
to it, those between the second and the third do not, and so on.
-/

namespace Retention.Text

/-- An odd number of bounds do not exceed the members of the class. -/
def inBounds (bounds : List Nat) (n : Nat) : Bool :=
  bounds.countP (· ≤ n) % 2 == 1

end Retention.Text
