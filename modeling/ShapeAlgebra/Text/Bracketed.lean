import ShapeAlgebra.Size

/-!
# Bracketed lists

The text of a list of numbers inside a message: its elements between square brackets, separated
by a comma and a space.
-/

namespace ShapeAlgebra.Text

/-- The texts `items` between square brackets. -/
def bracketed (items : List String) : String := "[" ++ ", ".intercalate items ++ "]"

/-- A list of sizes between square brackets. -/
def sizes (shape : List Size) : String := bracketed (shape.map Size.text)

/-- A list of axis positions between square brackets. -/
def positions (axes : List Nat) : String := bracketed (axes.map toString)

end ShapeAlgebra.Text
