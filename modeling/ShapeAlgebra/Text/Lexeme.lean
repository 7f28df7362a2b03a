import ShapeAlgebra.Text.Blank
import ShapeAlgebra.Text.Word

/-!
# Lexemes

The cut of a text into the pieces that the grammars read: maximal runs of word characters,
maximal runs of blanks, maximal runs of slashes, and every other character for itself.  Nothing
is lost: the lexemes of a text, one after the other, are the text.
-/

namespace ShapeAlgebra.Text

/-- Whether two neighbouring characters belong to one lexeme. -/
def joins (a b : Char) : Bool :=
  (isWordChar a && isWordChar b) || (isBlank a && isBlank b) || (a == '/' && b == '/')

/-- The lexemes of `cs`, in order. -/
def lexemes (cs : List Char) : List (List Char) := cs.splitBy joins

end ShapeAlgebra.Text
