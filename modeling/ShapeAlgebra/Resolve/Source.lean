import ShapeAlgebra.Slot.Basic

/-!
# The source of a transform

A transform is resolved against the shape that its source describes.  A dimension that stands
alone in a slot of the source is bound to the size of its axis, to the first one if it stands
there twice; the declared sizes matter only for dimensions that are not bound.
-/

namespace ShapeAlgebra.Resolve

/-! ## Bindings -/

/-- The dimensions that stand alone in `source`, by symbol, with the sizes of their axes. -/
def boundSizes (source : Slots) (shape : List Size) : List (String × Size) :=
  (source.zip shape).filterMap fun (slot, n) =>
    (slot.expr?.bind Expr.var?).map fun d => (d.symbol, n)

/-- The binding that the axes of `source` make. -/
def binding (source : Slots) (shape : List Size) : Binding :=
  fun d => (boundSizes source shape).lookup d.symbol

/-- The value of `e` under the binding of `source`, with failures reported for `spec`. -/
def evalOn (spec : String) (source : Slots) (shape : List Size) (e : Expr) :
    Checked ShapeError Size :=
  Checked.ofExcept ((e.evalIn (binding source shape)).mapError (ShapeError.inSpec spec))

/-! ## Conditions -/

/-- Checks that `source` has one slot for each axis of `shape` and leaves none to be
inferred. -/
def checkSource (spec : String) (source : Slots) (shape : List Size) : Except ShapeError Unit :=
  if source.length ≠ shape.length then .error ⟨spec, .axisCount source.length shape.length⟩
  else if source.any Slot.isInferred then .error ⟨spec, .unreadable .inferredSource⟩
  else .ok ()

/-- The error that the two sides have different numbers of anonymous slots. -/
def placeholderError (spec : String) (source target : Slots) : ShapeError :=
  ⟨spec, .placeholders source.anonymousCount target.anonymousCount⟩

/-- The product of `sizes`, refused when it is too large. -/
def countElements (spec : String) (sizes : List Size) : Except ShapeError Size :=
  match Size.product? sizes with
  | some n => .ok n
  | none => .error ⟨spec, .operand .elementCount⟩

end ShapeAlgebra.Resolve
