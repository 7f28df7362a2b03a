import ShapeAlgebra.Error
import ShapeAlgebra.Expr.Basic

/-!
# The symbolic text of an expression

Expressions are shown with the parentheses that their trees need and with no others.  Each
operator has a strength; an operand is put in parentheses when its own operator is weaker than
what surrounds it asks for, and the right operand is asked for one more than the left, since
the operators group to the left.  A floor division shows as `floor(a/b)` and needs no
parentheses around it.
-/

namespace ShapeAlgebra

/-- The strength with which an operator binds its operands. -/
def BinOp.strength : BinOp → Nat
  | .add | .sub => 1
  | .mul => 2
  | .floorDiv => 3

namespace Expr

/-- A text in parentheses. -/
def parenthesised (s : String) : String := "(" ++ s ++ ")"

/-- The sign of an operator as it stands between two operands. -/
def spacedSign : BinOp → String
  | .mul => "*"
  | op => " " ++ op.sign ++ " "

/-- The text of an expression where the strength `asked` is needed to go without
parentheses. -/
def symbolicAt (asked : Nat) : Expr → String
  | .var d => d.name ++ parenthesised d.symbol
  | .lit n => if n < 0 ∧ 0 < asked then parenthesised n.text else n.text
  | .binary .floorDiv l r =>
    "floor" ++ parenthesised (l.symbolicAt BinOp.mul.strength ++ "/" ++
      r.symbolicAt BinOp.floorDiv.strength)
  | .binary op l r =>
    let body := l.symbolicAt op.strength ++ spacedSign op ++ r.symbolicAt (op.strength + 1)
    if op.strength < asked then parenthesised body else body

/-- The text of an expression, without the size it evaluates to. -/
def symbolic (e : Expr) : String := e.symbolicAt 0

/-- The floor division of two expressions, refused when the divisor is the literal zero.  A
divisor that turns out to be zero is found when the expression is evaluated. -/
def floorDiv (l r : Expr) : Except ShapeError Expr :=
  if r = .lit 0 then .error ⟨l.symbolic ++ " // 0", .operand .zeroLiteral⟩
  else .ok (.binary .floorDiv l r)

end Expr

end ShapeAlgebra
