import ShapeAlgebra.Size

/-!
# Identifiers and numerals

The two kinds of word that the grammars know, both over ASCII.  An identifier is a letter
followed by letters, digits and underscores.  A numeral is a decimal number without leading
zeros that a size can hold.
-/

namespace ShapeAlgebra.Text

/-- Whether `c` may stand inside a word: an ASCII letter, an ASCII digit or an underscore. -/
def isWordChar (c : Char) : Bool := c.isAlphanum || c == '_'

/-- Whether `cs` is an identifier: a letter followed by letters, digits and underscores. -/
def isIdentifier : List Char → Bool
  | [] => false
  | c :: cs => c.isAlpha && cs.all isWordChar

/-- The value of a numeral: decimal digits, of which the first is zero only if it is the only
one, with a value below `2 ^ 63`. -/
def numeral? (cs : List Char) : Option Size :=
  if cs ≠ [] ∧ cs.all Char.isDigit ∧ (cs.head? = some '0' → cs = ['0']) then
    Size.ofInt? (Nat.ofDigitChars 10 cs 0)
  else none

end ShapeAlgebra.Text
