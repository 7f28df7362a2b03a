import ShapeAlgebra.Dim.Basic

/-!
# Expressions

An expression is a size written in terms of dimensions: a dimension, a number, or two
expressions under one of the four operators.  Two expressions are the *same* when their trees
agree up to the instances of their dimensions.
-/

namespace ShapeAlgebra

/-- The operators of the algebra. -/
inductive BinOp where
  | add
  | sub
  | mul
  | floorDiv
  deriving DecidableEq, Repr

/-- The sign of an operator. -/
def BinOp.sign : BinOp → String
  | .add => "+"
  | .sub => "-"
  | .mul => "*"
  | .floorDiv => "//"

/-- A size in terms of dimensions. -/
inductive Expr where
  | var (dim : Dim)
  | lit (value : Size)
  | binary (op : BinOp) (lhs rhs : Expr)
  deriving DecidableEq, Repr

namespace Expr

/-! ## Structure -/

/-- The dimension of an expression that is nothing but a dimension. -/
def var? : Expr → Option Dim
  | .var d => some d
  | _ => none

/-- Whether two expressions are the same: the same operators over the same numbers and over
dimensions of the same symbols. -/
def same : Expr → Expr → Bool
  | .var a, .var b => a.sameAxis b
  | .lit a, .lit b => a == b
  | .binary op l r, .binary op' l' r' => op == op' && l.same l' && r.same r'
  | _, _ => false

@[simp]
theorem same_var (a b : Dim) : same (.var a) (.var b) = a.sameAxis b := rfl

@[simp]
theorem same_lit (a b : Size) : same (.lit a) (.lit b) = (a == b) := rfl

@[simp]
theorem same_binary (op op' : BinOp) (l r l' r' : Expr) :
    same (.binary op l r) (.binary op' l' r') = (op == op' && l.same l' && r.same r') := rfl

/-- Every expression is the same as itself. -/
@[simp]
theorem same_self (e : Expr) : e.same e = true := by
  induction e with
  | var d => simp [Dim.sameAxis]
  | lit n => simp
  | binary op l r ihl ihr => simp [ihl, ihr]

/-- The dimensions of `e` that name no axis of `seen`, appended to `seen` as they first occur. -/
def collectVars (seen : List Dim) : Expr → List Dim
  | .var d => if seen.any (·.sameAxis d) then seen else seen ++ [d]
  | .lit _ => seen
  | .binary _ l r => r.collectVars (l.collectVars seen)

/-- The dimensions of an expression, each once, in the order of their first occurrence. -/
def freeVars (e : Expr) : List Dim := e.collectVars []

/-- The expression in which every dimension for which `f` has an expression is replaced by
it. -/
def substitute (f : Dim → Option Expr) : Expr → Expr
  | .var d => (f d).getD (.var d)
  | .lit n => .lit n
  | .binary op l r => .binary op (l.substitute f) (r.substitute f)

@[simp]
theorem substitute_var (f : Dim → Option Expr) (d : Dim) :
    substitute f (.var d) = (f d).getD (.var d) := rfl

@[simp]
theorem substitute_lit (f : Dim → Option Expr) (n : Size) : substitute f (.lit n) = .lit n := rfl

@[simp]
theorem substitute_binary (f : Dim → Option Expr) (op : BinOp) (l r : Expr) :
    substitute f (.binary op l r) = .binary op (l.substitute f) (r.substitute f) := rfl

/-! ## Builders -/

/-- The sum of two expressions. -/
def add (l r : Expr) : Expr := .binary .add l r

/-- The difference of two expressions. -/
def sub (l r : Expr) : Expr := .binary .sub l r

/-- The product of two expressions. -/
def mul (l r : Expr) : Expr := .binary .mul l r

/-- The product of expressions, grouped to the left; `1` when there are none. -/
def product : List Expr → Expr
  | [] => .lit 1
  | e :: es => es.foldl mul e

end Expr

end ShapeAlgebra
