import ShapeAlgebra.Layout.Doc
import ShapeAlgebra.Shape

/-!
# The layout of expressions and shapes

An expression is a document in which no line ends, with its parentheses coloured by depth.  In a
shape, a line may end behind every comma between two axes.  The axes are one group: they are laid
out on one line if the whole shape fits the width, and otherwise each on a line of its own, one
space in from the parenthesis.

Depths are bytes, and the depth of what stands inside of parentheses is a sum.  In a build where
sums trap, an expression with too many parentheses in one another has no document, and neither has a
shape with such an axis.  Nothing else keeps an expression from having one: it is never refused.
-/

namespace ShapeAlgebra.Layout

/-! ## Parentheses -/

/-- The text `s` in the role `style`, as a document. -/
def word (style : Style) (s : String) : Doc := .text (styled style s)

/-- The document `d` between parentheses at `depth`. -/
def enclosed (depth : UInt8) (d : Doc) : Doc :=
  .append (word (.paren depth) "(") (.append d (word (.paren depth) ")"))

/-- The depth of what stands inside of parentheses at `depth`. -/
def deeper (o : Overflow) (depth : UInt8) : Checked Empty UInt8 :=
  Checked.settle o (if depth = 255 then none else some (depth + 1)) (depth + 1)

/-- Parentheses at `depth` around the document that `body` is one level deeper. -/
def nested (o : Overflow) (depth : UInt8) (body : UInt8 → Checked Empty Doc) :
    Checked Empty Doc := do
  let inner ← deeper o depth
  let d ← body inner
  .ok (enclosed depth d)

/-- The document that `body` is at `depth`, between parentheses if `needed` says so. -/
def nestedIf (o : Overflow) (needed : Prop) [Decidable needed] (depth : UInt8)
    (body : UInt8 → Checked Empty Doc) : Checked Empty Doc :=
  if needed then nested o depth body else body depth

/-! ## Expressions -/

/-- The sign of an operator as it stands between two operands. -/
def signDoc : BinOp → Doc
  | .mul => word .operator "*"
  | op => .append (.text Doc.space) (.append (word .operator op.sign) (.text Doc.space))

/-- The document of an expression inside `depth` parentheses, where the strength `asked` is needed
to go without more of them. -/
def symbolicDoc (o : Overflow) (asked : Nat) (depth : UInt8) : Expr → Checked Empty Doc
  | .var d => .ok (.append (word .ident d.name) (enclosed depth (word .ident d.symbol)))
  | .lit n =>
    let number := word .size n.text
    .ok (if n < 0 ∧ 0 < asked then enclosed depth number else number)
  | .binary .floorDiv l r => do
    let quotient ← nested o depth fun inner => do
      let left ← symbolicDoc o BinOp.mul.strength inner l
      let right ← symbolicDoc o BinOp.floorDiv.strength inner r
      .ok (.append left (.append (word .operator "/") right))
    .ok (.group (.append (word .keyword "floor") quotient))
  | .binary op l r => do
    let body ← nestedIf o (op.strength < asked) depth fun inner => do
      let left ← symbolicDoc o op.strength inner l
      let right ← symbolicDoc o (op.strength + 1) inner r
      .ok (.append left (.append (signDoc op) right))
    .ok (.group body)

/-- The document of the value of an expression: nothing if it has none or is a number. -/
def valueDoc (e : Expr) : Doc :=
  match e with
  | .lit _ => .nil
  | _ =>
    match e.eval with
    | .ok n => .append (word .punct ":") (word .size n.text)
    | .error _ => .nil

/-- The document of an expression: its symbolic text, and its value if it has one. -/
def exprDoc (o : Overflow) (e : Expr) : Checked Empty Doc := do
  let symbolic ← symbolicDoc o 0 0 e
  .ok (.append symbolic (valueDoc e))

/-- The layout of an expression within `width` columns. -/
def ofExpr (o : Overflow) (width : Nat) (e : Expr) : Checked Empty (List Span) :=
  (exprDoc o e).map (Doc.layout width)

/-! ## Shapes -/

/-- The axes of a shape, where a line may end behind each comma. -/
def axesDoc (axes : List Doc) : Doc := .separated (.append (word .punct ",") .line) axes

/-- What stands behind the axes of a shape: a comma if there is just one, and the parenthesis. -/
def closingDoc (axes : List Doc) : Doc :=
  .append (if axes.length = 1 then word .punct "," else .nil) (word (.paren 0) ")")

/-- The axes of a shape between its parentheses. -/
def framed (axes : List Doc) : Doc :=
  .append (word (.paren 0) "(") (.append (.group (.nest 1 (axesDoc axes))) (closingDoc axes))

/-- The document of a shape. -/
def shapeDoc (o : Overflow) (s : Shape) : Checked Empty Doc := do
  let axes ← s.mapM (exprDoc o)
  .ok (framed axes)

/-- The layout of a shape within `width` columns. -/
def ofShape (o : Overflow) (width : Nat) (s : Shape) : Checked Empty (List Span) :=
  (shapeDoc o s).map (Doc.layout width)

end ShapeAlgebra.Layout
