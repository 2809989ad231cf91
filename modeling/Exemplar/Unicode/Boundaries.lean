/-! A set of code points given by its boundaries: the ascending code points at which membership
changes, the first of them a member. -/
namespace Exemplar.Unicode

structure Boundaries where
  points : List Nat

namespace Boundaries

/-- An odd number of the points lies at or below `n`, as long as the points ascend. -/
def odd : List Nat → Nat → Bool
  | [], _ => false
  | p :: rest, n => if n < p then false else !odd rest n

def covers (b : Boundaries) (n : Nat) : Bool :=
  odd b.points n

end Boundaries

end Exemplar.Unicode
