import ShapeAlgebra.Size

/-!
# Terms

The arithmetic that may be written in a slot, as a tree: identifiers, numbers, negation and the
binary operators.  A term says what was written; whether its identifiers are declared and its
operators make sense is settled when it is compiled.
-/

namespace ShapeAlgebra

/-- The operators that may be written between two operands. -/
inductive Term.Op where
  | add
  | sub
  | mul
  | floorDiv
  /-- A division that does not round. -/
  | trueDiv
  deriving DecidableEq, Repr

/-- Whether an operator is a sum operator, which binds more weakly than the others. -/
def Term.Op.isSum : Term.Op → Bool
  | .add | .sub => true
  | _ => false

/-- The sign of an operator. -/
def Term.Op.sign : Term.Op → String
  | .add => "+"
  | .sub => "-"
  | .mul => "*"
  | .floorDiv => "//"
  | .trueDiv => "/"

/-- The arithmetic written in a slot. -/
inductive Term where
  | ident (symbol : String)
  | int (value : Size)
  | neg (operand : Term)
  | binary (op : Term.Op) (lhs rhs : Term)
  deriving DecidableEq, Repr

namespace Term

/-- The term `t` under `n` negations. -/
def negated : Nat → Term → Term
  | 0, t => t
  | n + 1, t => .neg (negated n t)

@[simp]
theorem negated_zero (t : Term) : negated 0 t = t := rfl

@[simp]
theorem negated_succ (n : Nat) (t : Term) : negated (n + 1) t = .neg (negated n t) := rfl

end Term

end ShapeAlgebra
