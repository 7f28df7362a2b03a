import ShapeAlgebra.Expr.Symbolic

/-!
# The value of an expression

An expression has a value once every dimension in it has a size, from a binding or else from its
declaration, and the arithmetic stays within the sizes.  Operands are evaluated from left to
right before their operator, and the first failure is reported for the subexpression in which it
happens.
-/

namespace ShapeAlgebra

/-- The exact result of an operator on two sizes, if it is a size. -/
def BinOp.apply? : BinOp → Size → Size → Option Size
  | .add => Size.add?
  | .sub => Size.sub?
  | .mul => Size.mul?
  | .floorDiv => Size.floorDiv?

/-- Sizes for some of the dimensions. -/
abbrev Binding := Dim → Option Size

namespace Expr

/-! ## Evaluation -/

/-- The size of `d` under `b`, or else the declared one. -/
def sizeOfDim (b : Binding) (d : Dim) : Except ShapeError Size :=
  match (b d).or d.size with
  | some n => .ok n
  | none => .error ⟨(Expr.var d).symbolic, .unsized d.symbol⟩

/-- The value of `l op r` when its operands have the values `m` and `n`. -/
def combine (op : BinOp) (l r : Expr) (m n : Size) : Except ShapeError Size :=
  if op = .floorDiv ∧ n = 0 then
    .error ⟨(Expr.binary op l r).symbolic, .operand (.zeroDivisor r.symbolic)⟩
  else
    match op.apply? m n with
    | some value => .ok value
    | none => .error ⟨(Expr.binary op l r).symbolic, .operand (.overflow m op.sign n)⟩

/-- The value of an expression, where `b` binds dimensions to sizes and the declared sizes fill
in. -/
def evalIn (b : Binding) : Expr → Except ShapeError Size
  | .lit n => .ok n
  | .var d => sizeOfDim b d
  | .binary op l r => do
    let m ← l.evalIn b
    let n ← r.evalIn b
    combine op l r m n

/-- The value of an expression under the declared sizes alone. -/
def eval (e : Expr) : Except ShapeError Size := e.evalIn fun _ => none

@[simp]
theorem evalIn_lit (b : Binding) (n : Size) : evalIn b (.lit n) = .ok n := rfl

@[simp]
theorem evalIn_var (b : Binding) (d : Dim) : evalIn b (.var d) = sizeOfDim b d := rfl

@[simp]
theorem evalIn_binary (b : Binding) (op : BinOp) (l r : Expr) :
    evalIn b (.binary op l r) = (l.evalIn b).bind fun m => (r.evalIn b).bind fun n =>
      combine op l r m n := rfl

/-! ## Text -/

/-- The text of an expression: its symbolic text, and after a colon its value if it has one.  A
number is its own value. -/
def display (e : Expr) : String :=
  match e with
  | .lit n => n.text
  | _ =>
    match e.eval with
    | .ok n => e.symbolic ++ ":" ++ n.text
    | .error _ => e.symbolic

/-! ## Comparison -/

/-- The order of the values of two expressions.  Without values, expressions compare only if they
are the same, and then they are equal. -/
def compare? (a b : Expr) : Option Ordering :=
  match a.eval, b.eval with
  | .ok m, .ok n => some (compare m.toInt n.toInt)
  | _, _ => if a.same b then some .eq else none

/-- Whether two expressions stand for the same size: they are the same, or they have the same
value. -/
def equiv (a b : Expr) : Bool :=
  a.same b ||
    match a.eval, b.eval with
    | .ok m, .ok n => m == n
    | _, _ => false

end Expr

end ShapeAlgebra
