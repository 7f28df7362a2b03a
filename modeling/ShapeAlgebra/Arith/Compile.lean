import ShapeAlgebra.Arith.Reader
import ShapeAlgebra.Expr.Symbolic
import ShapeAlgebra.Registry.Basic

/-!
# Compiling slot arithmetic

A text that is not in the grammar is reported as it stands, and whoever reads it as a part of a spec
reports the spec instead.

A term becomes an expression when its identifiers are looked up in a registry.  Compiling goes
from left to right, operands before their operator, and stops at the first thing it cannot make
an expression of: an identifier that is not declared, a floor division by the literal zero, or a
true division.  The minus sign of a number becomes part of the number, any other is a
multiplication by `-1`.
-/

namespace ShapeAlgebra.Term

/-- The expression that an operator makes of two expressions. -/
def Op.compile (spec : String) (l r : Expr) : Op → Except ShapeError Expr
  | .add => .ok (l.add r)
  | .sub => .ok (l.sub r)
  | .mul => .ok (l.mul r)
  | .floorDiv => (l.floorDiv r).mapError (ShapeError.inSpec spec)
  | .trueDiv => .error ⟨spec, .operand (.trueDivision l.symbolic r.symbolic)⟩

/-- The expression that a term of `spec` is, over the dimensions of `r`. -/
def compile (r : Registry) (spec : String) : Term → Except ShapeError Expr
  | .ident symbol => (r.resolve spec symbol).map .var
  | .int value => .ok (.lit value)
  | .neg (.int value) => .ok (.lit (-value))
  | .neg operand => do
    let e ← operand.compile r spec
    .ok (Expr.mul (.lit (-1)) e)
  | .binary op lhs rhs => do
    let l ← lhs.compile r spec
    let r ← rhs.compile r spec
    op.compile spec l r

/-- The term that a text is; if it is none, that is reported for the text. -/
def ofText (cs : List Char) : Except ShapeError Term :=
  match read? cs with
  | some t => .ok t
  | none => .error ⟨String.ofList cs, .unreadable .malformed⟩

end ShapeAlgebra.Term

namespace ShapeAlgebra.Registry

/-- The expression that the text `cs` of `spec` stands for, where all errors are reported for
`spec`. -/
def readExpr (r : Registry) (spec : String) (cs : List Char) : Except ShapeError Expr := do
  let t ← (Term.ofText cs).mapError (ShapeError.inSpec spec)
  t.compile r spec

/-- A text that is a term is compiled, any other is reported for the spec. -/
theorem readExpr_eq (r : Registry) (spec : String) (cs : List Char) :
    r.readExpr spec cs =
      match Term.read? cs with
      | some t => t.compile r spec
      | none => .error ⟨spec, .unreadable .malformed⟩ := by
  unfold readExpr Term.ofText
  cases Term.read? cs <;> rfl

/-- The expression that `spec` stands for, blanks aside. -/
def expr (r : Registry) (spec : String) : Except ShapeError Expr :=
  r.readExpr spec (Text.withoutBlanks spec.toList)

end ShapeAlgebra.Registry
