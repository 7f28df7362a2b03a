import ShapeAlgebra.Expr.Eval

/-!
# Shapes

The annotation of a shape gives an expression for every axis.  It fits a concrete shape when
there are as many axes and every expression has the size of its axis as its value.
-/

namespace ShapeAlgebra

/-- The annotation of a shape: an expression for every axis. -/
abbrev Shape := List Expr

namespace Shape

/-! ## Text -/

/-- The text of a shape: its axes in parentheses, with a comma after a single one. -/
def display (s : Shape) : String :=
  "(" ++ ", ".intercalate (s.map Expr.display) ++ (if s.length = 1 then "," else "") ++ ")"

/-! ## Axes -/

/-- The shape with one axis for each of `dims`. -/
def ofDims (dims : List Dim) : Shape := dims.map .var

/-- The first axis with the same expression as `e`. -/
def indexOf? (s : Shape) (e : Expr) : Option Nat := s.findIdx? (·.same e)

/-- The first axis that is nothing but a dimension of the symbol of `d`. -/
def axisOf? (s : Shape) (d : Dim) : Option Nat :=
  s.findIdx? fun e => e.var?.any (·.sameAxis d)

/-- The expression of an axis that is there. -/
def axis {ε : Type} (s : Shape) (index : Nat) : Checked ε Expr := Checked.elementAt s index

/-- Whether two shapes stand for the same sizes, axis by axis. -/
def equiv (s t : Shape) : Bool := s.length == t.length && (s.zip t).all fun (a, b) => a.equiv b

/-! ## Values -/

/-- The values of the axes. -/
def eval (s : Shape) : Except ShapeError (List Size) := s.mapM Expr.eval

/-- The number of elements, whose partial products may overflow. -/
def elementCount (o : Overflow) (s : Shape) : Checked ShapeError Size := do
  let sizes ← Checked.ofExcept s.eval
  Checked.settle o (Size.product? sizes) (sizes.foldl (· * ·) 1)

/-- Whether `e` has the value `n`. -/
def axisFits (e : Expr) (n : Size) : Bool :=
  match e.eval with
  | .ok m => m == n
  | .error _ => false

/-- Whether an annotation fits a concrete shape. -/
def fits (s : Shape) (concrete : List Size) : Bool :=
  s.length == concrete.length && (s.zip concrete).all fun (e, n) => axisFits e n

/-- Whether the values of the axes are the sizes they are paired with; the first axis whose value
is missing or different decides. -/
def checkAxes (spec : String) (mismatch : Mismatch) : List (Expr × Size) → Except ShapeError Unit
  | [] => .ok ()
  | (e, n) :: axes => do
    let m ← e.eval
    if m = n then checkAxes spec mismatch axes else .error ⟨spec, .mismatch mismatch⟩

/-- Checks that an annotation fits a concrete shape, and says how it does not. -/
def check (s : Shape) (concrete : List Size) : Except ShapeError Unit :=
  let mismatch := Mismatch.shape s.display concrete
  if s.length = concrete.length then checkAxes s.display mismatch (s.zip concrete)
  else .error ⟨s.display, .mismatch mismatch⟩

end Shape

end ShapeAlgebra
