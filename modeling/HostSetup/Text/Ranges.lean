/-!
Sets of code points as ascending ranges, the form in which character properties are tabulated.
-/
namespace HostSetup.Text

/-- Ranges of code points, both ends included, in ascending order and without overlap. -/
abbrev Ranges := List (Nat × Nat)

namespace Ranges

def covers : Ranges → Nat → Bool
  | [], _ => false
  | (low, high) :: rest, n => if n ≤ high then low ≤ n else covers rest n

def holds (ranges : Ranges) (c : Char) : Bool := ranges.covers c.toNat

end Ranges
end HostSetup.Text
