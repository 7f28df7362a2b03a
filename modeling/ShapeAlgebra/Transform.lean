import ShapeAlgebra.Resolve.Align
import ShapeAlgebra.Resolve.Expand
import ShapeAlgebra.Resolve.Permute
import ShapeAlgebra.Resolve.Reduce
import ShapeAlgebra.Resolve.View
import ShapeAlgebra.Spec.Basic

/-!
# Transforms

The transforms as they are asked for: by a spec that is read over a registry, or by shapes that
were built elsewhere.  Each is resolved to the numbers that a host needs, and a resolution that
succeeds is an event.
-/

namespace ShapeAlgebra

/-! ## Resolutions -/

/-- The outcome of resolving a transform. -/
structure Resolution (α : Type) where
  result : Checked ShapeError α
  /-- What happened, in order. -/
  events : List Event

/-- The resolution with this result, whose success is reported as `event` says. -/
def Resolution.of {α : Type} (event : α → Event) (result : Checked ShapeError α) :
    Resolution α where
  result := result
  events := match result with
    | .ok a => [event a]
    | .error _ => []

/-! ## Sources and expansions -/

/-- What can stand for one side of a transform. -/
inductive Source where
  | spec (text : String)
  | shape (s : Shape)
  | slots (list : Slots)
  deriving DecidableEq, Repr

namespace Source

/-- The text that stands for a source in reports. -/
def describe : Source → String
  | .spec text => text
  | .shape s => s.display
  | .slots list => Slots.text list

/-- The slots of a source. -/
def read (r : Registry) : Source → Except ShapeError Slots
  | .spec text => r.readSlots .size text
  | .shape s => .ok (s.map .expr)
  | .slots list => .ok list

end Source

/-- What can stand for a list of expansions of named axes. -/
inductive Expansions where
  | spec (text : String)
  | pairs (list : List (Expr × Expr))
  deriving DecidableEq, Repr

namespace Expansions

/-- The text that stands for expansions in reports. -/
def describe : Expansions → String
  | .spec text => text
  | .pairs list =>
    ",".intercalate (list.map fun (axis, size) => axis.symbolic ++ "->" ++ size.symbolic)

/-- The axes to expand, with their new sizes. -/
def read (r : Registry) : Expansions → Except ShapeError (List (Expr × Expr))
  | .spec text => Spec.readExpansions r text
  | .pairs list => .ok list

end Expansions

/-! ## Transforms over a registry -/

namespace Registry

/-- The sizes that the view `spec` gives to a tensor of shape `shape`. -/
def view (r : Registry) (spec : String) (shape : List Size) : Resolution (List Size) :=
  .of (.viewed spec shape) do
    let (source, target) ← Checked.ofExcept (r.readTransform .size spec)
    Resolve.view spec source target shape

/-- The sizes that line a tensor of shape `shape` up as `spec` says. -/
def align (r : Registry) (spec : String) (shape : List Size) : Resolution (List Size) :=
  .of (.aligned spec shape) do
    let (source, target) ← Checked.ofExcept (r.readTransform .size spec)
    Resolve.align spec source target shape

/-- The permutation that `spec` stands for. -/
def permute (r : Registry) (spec : String) : Resolution (List Nat) :=
  .of (.permuted spec) do
    let (source, target) ← Checked.ofExcept (r.readTransform .size spec)
    Resolve.permute spec source target

/-- The axes that the reduction `spec` drops. -/
def reducedAxes (r : Registry) (spec : String) : Resolution (List Nat) :=
  .of (.reduced spec) do
    let (source, target) ← Checked.ofExcept (r.readTransform .anonymous spec)
    Resolve.reducedAxes spec source target

/-- The permutation from the order of `source` to that of `target`. -/
def permuteBetween (r : Registry) (source target : Source) : Resolution (List Nat) :=
  let spec := source.describe ++ " -> " ++ target.describe
  .of (.permuted spec) do
    let befores ← Checked.ofExcept ((source.read r).mapError (ShapeError.inSpec spec))
    let afters ← Checked.ofExcept ((target.read r).mapError (ShapeError.inSpec spec))
    Resolve.permute spec befores afters

/-- The factors that expand the axes of `source`, which has the shape `shape`. -/
def expand (r : Registry) (source : Source) (expansions : Expansions) (shape : List Size) :
    Resolution (List Size) :=
  let spec := source.describe ++ " : " ++ expansions.describe
  .of (.expanded spec shape) do
    let slots ← Checked.ofExcept ((source.read r).mapError (ShapeError.inSpec spec))
    let pairs ← Checked.ofExcept ((expansions.read r).mapError (ShapeError.inSpec spec))
    Resolve.expand spec slots pairs shape

/-- The factors that take `source`, which has the shape `shape`, to `target`, both of them specs
of shapes; errors of the expansion itself are reported for `spec`. -/
def expandPositional (r : Registry) (source target spec : String) (shape : List Size) :
    Resolution (List Size) :=
  .of (.expanded spec shape) do
    let befores ← Checked.ofExcept (r.readSlots .size source)
    let afters ← Checked.ofExcept (r.readSlots .size target)
    Resolve.expandPositional spec befores afters shape

end Registry

end ShapeAlgebra
