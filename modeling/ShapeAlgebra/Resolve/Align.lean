import ShapeAlgebra.Resolve.Source

/-!
# Aligning

An alignment inserts axes of size one until the source lines up with the target.  The target is
walked from the left: a slot that pairs with the next axis of the source gets its size, and any
other slot is a new axis.  Every axis of the source has to find its place.
-/

namespace ShapeAlgebra.Resolve

/-- The sizes of the slots of `target`, where `source` with the sizes `shape` is still to be
placed, together with the slots of `source` that found no place. -/
def placeAxes (source : Slots) (shape : List Size) :
    Slots → Checked ShapeError (List Size × Slots)
  | [] => .ok ([], source)
  | slot :: target =>
    match source with
    | [] => do
      let (sizes, left) ← placeAxes [] shape target
      .ok (1 :: sizes, left)
    | axis :: axes =>
      if axis.pairs slot then
        match shape with
        | [] => Checked.trap .outOfRange
        | n :: shape => do
          let (sizes, left) ← placeAxes axes shape target
          .ok (n :: sizes, left)
      else do
        let (sizes, left) ← placeAxes (axis :: axes) shape target
        .ok (1 :: sizes, left)

/-- The sizes that line a tensor of shape `shape` up with `target`. -/
def align (spec : String) (source target : Slots) (shape : List Size) :
    Checked ShapeError (List Size) := do
  Checked.ofExcept (checkSource spec source shape)
  let (sizes, left) ← placeAxes source shape target
  match left with
  | [] => .ok sizes
  | missing :: _ => Checked.refuse ⟨spec, .unmatched missing.text⟩

end ShapeAlgebra.Resolve
