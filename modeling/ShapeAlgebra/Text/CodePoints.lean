/-!
# Sets of code points

A property of characters that no short rule decides is kept as a table of the code points that
have it.  All tables of this library follow version 17 of the Unicode standard.
-/

namespace ShapeAlgebra.Text

/-- A set of code points, as a list of closed ranges. -/
abbrev CodePoints := List (Nat × Nat)

namespace CodePoints

/-- Whether `c` is in the set. -/
def has (points : CodePoints) (c : Char) : Bool :=
  points.any fun range => range.1 ≤ c.toNat && c.toNat ≤ range.2

end CodePoints

end ShapeAlgebra.Text
