import ShapeAlgebra.Arith.Token
import ShapeAlgebra.Proofs.Text.Lexeme

/-!
# The grammar of slot arithmetic

The grammar is said twice over: which sequences of tokens it generates, and how tokens are written.

Its four levels are those of a sum `E`, a product `T`, a factor `U` and an atom `A`.  With the tree
that a derivation stands for, the rules are

* `E := T` and `E := E ('+' | '-') T`,
* `T := U` and `T := T ('//' | '*' | '/') U`,
* `U := A` and `U := '-' U`,
* `A := int | ident | '(' E ')'`.

The left recursion of `E` and `T` generates `T (('+' | '-') T)*` and `U (('//' | '*' | '/') U)*`,
with the trees that group operators to the left.  In a text, blanks may stand around every token,
and nowhere else.
-/

namespace ShapeAlgebra.Term

open Text

/-! ## Derivations -/

/-- The levels of the grammar, from the one that binds its parts most weakly. -/
inductive Level where
  | sum
  | product
  | factor
  | atom
  deriving DecidableEq, Repr

/-- `Derives level ts t` says that the tokens `ts` are generated at `level`, and that `t` is the
tree of a derivation. -/
inductive Derives : Level → List Token → Term → Prop where
  | ident (symbol : String) : Derives .atom [.ident symbol] (.ident symbol)
  | int (value : Size) : Derives .atom [.int value] (.int value)
  | parentheses {ts : List Token} {t : Term} :
    Derives .sum ts t → Derives .atom (.opening :: (ts ++ [.closing])) t
  | atom {ts : List Token} {t : Term} : Derives .atom ts t → Derives .factor ts t
  | neg {ts : List Token} {t : Term} :
    Derives .factor ts t → Derives .factor (.op .sub :: ts) (.neg t)
  | factor {ts : List Token} {t : Term} : Derives .factor ts t → Derives .product ts t
  | productOp {op : Op} {ls rs : List Token} {l r : Term} : op.isSum = false →
    Derives .product ls l → Derives .factor rs r →
      Derives .product (ls ++ .op op :: rs) (.binary op l r)
  | product {ts : List Token} {t : Term} : Derives .product ts t → Derives .sum ts t
  | sumOp {op : Op} {ls rs : List Token} {l r : Term} : op.isSum = true →
    Derives .sum ls l → Derives .product rs r →
      Derives .sum (ls ++ .op op :: rs) (.binary op l r)

/-! ## Spellings -/

/-- How a token is written. -/
inductive Token.Spells : Token → List Char → Prop where
  | ident {symbol : String} : Identifier symbol.toList → Spells (.ident symbol) symbol.toList
  | int {value : Size} {digits : List Char} : Numeral digits value → Spells (.int value) digits
  | op (op : Op) : Spells (.op op) op.sign.toList
  | opening : Spells .opening ['(']
  | closing : Spells .closing [')']

/-- `Spelled ts cs` says that the text `cs` consists of the tokens `ts`, in order, with blanks
around them. -/
inductive Spelled : List Token → List Char → Prop where
  | nil {blanks : List Char} : Blanks blanks → Spelled [] blanks
  | cons {blanks word cs : List Char} {t : Token} {ts : List Token} : Blanks blanks →
    t.Spells word → Spelled ts cs → Spelled (t :: ts) (blanks ++ (word ++ cs))

/-- `Generates level cs t` says that the text `cs` is generated at `level`, and that `t` is the tree
of a derivation. -/
def Generates (level : Level) (cs : List Char) (t : Term) : Prop :=
  ∃ ts, Spelled ts cs ∧ Derives level ts t

/-! ## Laws of spelling -/

/-- The text of a single token is spelled without blanks. -/
lemma Token.Spells.spelled {t : Token} {word : List Char} (h : t.Spells word) :
    Spelled [t] word := by
  have hword := Spelled.cons blanks_nil h (.nil blanks_nil)
  rwa [List.append_nil, List.nil_append] at hword

namespace Spelled

variable {ts us : List Token} {cs ds : List Char}

/-- Blanks in front do not change which tokens a text spells. -/
lemma blanks_append {blanks : List Char} (hblanks : Blanks blanks) (h : Spelled ts cs) :
    Spelled ts (blanks ++ cs) := by
  cases h with
  | nil hmore => exact .nil (hblanks.append hmore)
  | cons hmore hword hrest =>
    rw [← List.append_assoc]
    exact .cons (hblanks.append hmore) hword hrest

/-- Texts one behind the other spell their tokens one behind the other. -/
lemma append (h : Spelled ts cs) (h' : Spelled us ds) : Spelled (ts ++ us) (cs ++ ds) := by
  induction h with
  | nil hblanks => exact h'.blanks_append hblanks
  | cons hblanks hword _ ih =>
    rw [List.append_assoc, List.append_assoc]
    exact .cons hblanks hword ih

end Spelled

end ShapeAlgebra.Term
