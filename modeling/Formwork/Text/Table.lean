/-!
Sets of characters given by the points where they begin and end.
-/
namespace Formwork.Text

/-- Membership in the set whose stretches `bounds` delimits: the ascending bounds alternate between
the first member of a stretch and the first non-member after it. -/
def inTable (bounds : List Nat) (n : Nat) : Bool :=
  (bounds.takeWhile (· ≤ n)).length % 2 == 1

end Formwork.Text
