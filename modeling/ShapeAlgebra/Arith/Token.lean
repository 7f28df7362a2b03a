import ShapeAlgebra.Arith.Term
import ShapeAlgebra.Text.Lexeme

/-!
# Tokens of slot arithmetic

The lexemes of a slot, with the blanks left out and the others named.

Cutting a text first and reading it afterwards loses nothing against a grammar that goes through the
characters itself, with blanks allowed around every piece.

* An identifier, or a number without leading zeros, takes all the word characters that it can, and
  an operator or a parenthesis has to follow.  So a run of word characters is one piece or none at
  all: `2b` and `007` are not in the grammar.
* Where `//` is tried in front of `/`, two slashes in a row are a floor division and a single one is
  a true division.  In a longer run a slash would stand where an operand is awaited, so that no such
  run is in the grammar.  With a blank between them two slashes are two pieces, in the same way.
* Any other sign is a piece by itself.
-/

namespace ShapeAlgebra.Term

open Text

/-- The pieces of slot arithmetic. -/
inductive Token where
  | ident (symbol : String)
  | int (value : Size)
  | op (op : Op)
  | opening
  | closing
  deriving DecidableEq, Repr

/-- The token that a word is: an identifier or a numeral. -/
def Token.ofWord? (cs : List Char) : Option Token :=
  if isIdentifier cs then some (.ident (String.ofList cs))
  else (numeral? cs).map .int

/-- The token that a lexeme is, if slot arithmetic knows it. -/
def Token.ofLexeme? : List Char → Option Token
  | ['+'] => some (.op .add)
  | ['-'] => some (.op .sub)
  | ['*'] => some (.op .mul)
  | ['/', '/'] => some (.op .floorDiv)
  | ['/'] => some (.op .trueDiv)
  | ['('] => some .opening
  | [')'] => some .closing
  | cs => Token.ofWord? cs

/-- Whether a lexeme is blank space. -/
def isSpace (lexeme : List Char) : Bool := lexeme.all isBlank

/-- The tokens of a text, if every lexeme of it that is not blank is one. -/
def Token.ofChars? (cs : List Char) : Option (List Token) :=
  ((lexemes cs).filter fun lexeme => !isSpace lexeme).mapM Token.ofLexeme?

end ShapeAlgebra.Term
