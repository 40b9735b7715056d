/-!
# Runs of code points

Properties of characters are tables of runs of code points.
-/

namespace Sluice.Text

/-- The first and the last code point of a run. -/
abbrev Run := Nat × Nat

namespace Run

def contains (r : Run) (c : Char) : Bool :=
  r.1 ≤ c.toNat && c.toNat ≤ r.2

/-- Whether one of the runs contains the character. -/
def cover (runs : List Run) (c : Char) : Bool :=
  runs.any (contains · c)

end Run

end Sluice.Text
