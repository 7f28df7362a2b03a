import ShapeAlgebra.Text.CodePoints

/-!
# Blanks

The characters that count as blank space: those with the `White_Space` property of the Unicode
standard.  Blanks separate words and mean nothing otherwise.
-/

namespace ShapeAlgebra.Text

/-- The code points with the `White_Space` property. -/
def blankPoints : CodePoints :=
  [(0x09, 0x0D), (0x20, 0x20), (0x85, 0x85), (0xA0, 0xA0), (0x1680, 0x1680), (0x2000, 0x200A),
    (0x2028, 0x2029), (0x202F, 0x202F), (0x205F, 0x205F), (0x3000, 0x3000)]

/-- Whether `c` is blank space. -/
def isBlank (c : Char) : Bool := blankPoints.has c

/-- What is left of `cs` without its blanks. -/
def withoutBlanks (cs : List Char) : List Char := cs.filter fun c => !isBlank c

/-- The words of `cs`: its maximal runs without a blank. -/
def words (cs : List Char) : List (List Char) := (cs.splitOnP isBlank).filter (· ≠ [])

end ShapeAlgebra.Text
