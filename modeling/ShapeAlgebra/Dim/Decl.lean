import ShapeAlgebra.Size

/-!
# Declarations

A declaration introduces a dimension: a name to show, a symbol to refer to it by, and the size
it has when nothing else is known.  `Batch(b):20` is the declaration of the dimension `Batch`
with the symbol `b` and the size `20`.
-/

namespace ShapeAlgebra

/-- The declaration of a dimension. -/
structure Decl where
  /-- The name shown to the reader. -/
  name : String
  /-- The symbol by which specs refer to the dimension. -/
  symbol : String
  /-- The size that holds when no axis says otherwise, if there is one. -/
  size : Option Size
  deriving DecidableEq, Repr

namespace Decl

/-- The text of a declared size: a colon and the digits, nothing when there is no size. -/
def sizeSuffix : Option Size → String
  | none => ""
  | some s => ":" ++ s.text

/-- The text of a declaration, `Name(symbol):size`. -/
def text (d : Decl) : String := d.name ++ "(" ++ d.symbol ++ ")" ++ sizeSuffix d.size

end Decl

end ShapeAlgebra
