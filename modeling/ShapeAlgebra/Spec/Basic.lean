import ShapeAlgebra.Arith.Compile
import ShapeAlgebra.Slot.Basic
import ShapeAlgebra.Spec.Cut

/-!
# Specs

A spec writes a shape, or a transform from one shape to another.  Its blanks mean nothing.  With
an arrow it is a transform, and what stands on the two sides of the first arrow are its source
and its target; without one it is a single shape.  A chain is a spec with any number of arrows,
cut at all of them.

The text of a slot is an anonymous axis when it is empty or an underscore, an axis to be inferred
when it is `-1`, and slot arithmetic otherwise.  Where a mere number says nothing but that there
is an axis, as in reductions, the caller asks for numbers to be read as anonymous axes.
-/

namespace ShapeAlgebra

/-- What a slot that is a mere number stands for. -/
inductive NumberMode where
  /-- An axis of that size. -/
  | size
  /-- An axis without a name. -/
  | anonymous
  deriving DecidableEq, Repr

/-- A spec, read. -/
inductive Spec where
  | shape (form : Spec.Form) (slots : Slots)
  | transform (source target : Slots)
  deriving DecidableEq, Repr

namespace Spec

/-! ## Slots -/

/-- Whether a slot text is read as an anonymous axis. -/
def isPlaceholder (mode : NumberMode) (raw : List Char) : Bool :=
  raw == [] || raw == ['_'] || (mode == .anonymous && raw.all Char.isDigit)

/-- The slot that the text `raw` of `spec` stands for; an anonymous axis gets the ordinal
`next`. -/
def readSlot (r : Registry) (mode : NumberMode) (spec : String) (next : Nat) (raw : List Char) :
    Except ShapeError Slot :=
  if isPlaceholder mode raw then .ok (.anonymous next)
  else if raw = ['-', '1'] then .ok .inferred
  else (r.readExpr spec raw).map .expr

/-- The ordinal of the next anonymous slot behind `slot`, if that of `slot` would be `next`. -/
def nextOrdinal (next : Nat) (slot : Slot) : Nat := if slot.isAnonymous then next + 1 else next

/-- The slots that the texts `raws` of `spec` stand for, where the ordinals start at `next`. -/
def readSlots (r : Registry) (mode : NumberMode) (spec : String) (next : Nat) :
    List (List Char) → Except ShapeError Slots
  | [] => .ok []
  | raw :: raws => do
    let slot ← readSlot r mode spec next raw
    let slots ← readSlots r mode spec (nextOrdinal next slot) raws
    .ok (slot :: slots)

/-- The slots of a side of `spec`. -/
def readSide (r : Registry) (mode : NumberMode) (spec : String) (side : List Char) :
    Except ShapeError Slots :=
  readSlots r mode spec 0 (cutSide side)

/-! ## Specs -/

/-- The spec that the text `spec` stands for. -/
def read (r : Registry) (mode : NumberMode) (spec : String) : Except ShapeError Spec :=
  let text := Text.withoutBlanks spec.toList
  match cutFirstArrow? text with
  | some (before, after) => do
    let source ← readSide r mode spec before
    let target ← readSide r mode spec after
    .ok (.transform source target)
  | none => do
    let slots ← readSide r mode spec text
    .ok (.shape (formOf text) slots)

/-- The two sides of a transform; a shape is refused. -/
def sides (spec : String) : Spec → Except ShapeError (Slots × Slots)
  | .transform source target => .ok (source, target)
  | .shape _ _ => .error ⟨spec, .unreadable .noArrow⟩

/-- The slots of a shape; a transform is refused. -/
def single (spec : String) : Spec → Except ShapeError Slots
  | .shape _ slots => .ok slots
  | .transform _ _ => .error ⟨spec, .unreadable .arrow⟩

/-- The stages of the chain that `spec` stands for. -/
def readChain (r : Registry) (spec : String) : Except ShapeError (List Slots) :=
  (cutArrows (Text.withoutBlanks spec.toList)).mapM (readSide r .size spec)

/-! ## Expansions -/

/-- The expansion that the text `pair` of `spec` stands for: an axis, and its new size.  Each of
them is an expression of its own, whose errors are then reported for `spec`. -/
def readExpansion (r : Registry) (spec : String) (pair : List Char) :
    Except ShapeError (Expr × Expr) :=
  match cutFirstArrow? pair with
  | some (before, after) => do
    let axis ← (r.expr (String.ofList before)).mapError (ShapeError.inSpec spec)
    let size ← (r.expr (String.ofList after)).mapError (ShapeError.inSpec spec)
    .ok (axis, size)
  | none => .error ⟨spec, .unreadable (.noExpansionArrow (String.ofList pair))⟩

/-- The expansions that `spec` stands for, cut as the slots of a side are. -/
def readExpansions (r : Registry) (spec : String) : Except ShapeError (List (Expr × Expr)) :=
  ((cutSide (Text.withoutBlanks spec.toList)).filter (· ≠ [])).mapM (readExpansion r spec)

end Spec

namespace Registry

/-- The two sides of the transform that `spec` stands for. -/
def readTransform (r : Registry) (mode : NumberMode) (spec : String) :
    Except ShapeError (Slots × Slots) := do
  let s ← Spec.read r mode spec
  s.sides spec

/-- The slots of the shape that `spec` stands for. -/
def readSlots (r : Registry) (mode : NumberMode) (spec : String) : Except ShapeError Slots := do
  let s ← Spec.read r mode spec
  s.single spec

/-- The annotation that `spec` stands for. -/
def readShape (r : Registry) (spec : String) : Except ShapeError Shape := do
  let slots ← r.readSlots .size spec
  Slots.toShape spec slots

/-- Checks that the annotation `spec` fits a concrete shape. -/
def checkShape (r : Registry) (spec : String) (concrete : List Size) : Except ShapeError Unit := do
  let s ← r.readShape spec
  (s.check concrete).mapError (ShapeError.inSpec spec)

end Registry

end ShapeAlgebra
