import ShapeAlgebra.Resolve.Source

/-!
# Reshaping

The target of a view gives the sizes of the new axes.  An anonymous slot copies the size of the
anonymous axis of the same ordinal, an expression that is a slot of the source copies the size of
that axis, and any other expression is evaluated.  One slot may be left to be inferred; its size
is written `-1`, and then the sizes of the others have to divide the number of elements.
-/

namespace ShapeAlgebra.Resolve

/-- The size of the axis that `e` stands for on the target: that of the first axis of the source
with the same expression, or else its value. -/
def exprSize (spec : String) (source : Slots) (shape : List Size) (e : Expr) :
    Checked ShapeError Size :=
  match Slots.positionOf? source e with
  | some position => Checked.elementAt shape position
  | none => evalOn spec source shape e

/-- The size of a slot of the target. -/
def slotSize (spec : String) (source target : Slots) (shape : List Size) :
    Slot → Checked ShapeError Size
  | .anonymous ordinal =>
    match Slots.anonymousPosition? source ordinal with
    | some position => Checked.elementAt shape position
    | none => Checked.refuse (placeholderError spec source target)
  | .inferred => .ok (-1)
  | .expr e => do
    let n ← exprSize spec source shape e
    if n < 0 then Checked.refuse ⟨spec, .operand (.negativeSize e.symbolic n)⟩ else .ok n

/-- The sizes in `sizes` of the slots of `target` that are not to be inferred. -/
def sizedAxes (target : Slots) (sizes : List Size) : List Size :=
  ((target.zip sizes).filter fun (slot, _) => !slot.isInferred).map Prod.snd

/-- Checks that the elements of `shape` can be spread evenly over the axes of known size. -/
def checkDivisor (spec : String) (target : Slots) (shape sizes : List Size) :
    Checked ShapeError Unit := do
  let total ← Checked.ofExcept (countElements spec shape)
  let known ← Checked.ofExcept (countElements spec (sizedAxes target sizes))
  let mismatch : ShapeError := ⟨spec, .mismatch (.elements total known sizes)⟩
  if known = 0 then Checked.refuse mismatch
  else do
    let rest ← Size.remainder total known
    if rest = 0 then .ok () else Checked.refuse mismatch

/-- Checks that at most one slot of the target is to be inferred, and that it can be. -/
def checkInferred (spec : String) (target : Slots) (shape sizes : List Size) :
    Checked ShapeError Unit :=
  match target.countP Slot.isInferred with
  | 0 => .ok ()
  | 1 => checkDivisor spec target shape sizes
  | many => Checked.refuse ⟨spec, .axisCount 1 many⟩

/-- The sizes that the view from `source` to `target` gives to a tensor of shape `shape`. -/
def view (spec : String) (source target : Slots) (shape : List Size) :
    Checked ShapeError (List Size) := do
  Checked.ofExcept (checkSource spec source shape)
  let sizes ← target.mapM (slotSize spec source target shape)
  checkInferred spec target shape sizes
  .ok sizes

end ShapeAlgebra.Resolve
