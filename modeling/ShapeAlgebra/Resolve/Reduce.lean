import ShapeAlgebra.Resolve.Source

/-!
# Reducing

A reduction keeps the axes of the source that the target lists and drops the others.  The target
has to list them in the order of the source: every slot takes the first axis that pairs with it
behind the ones already taken, and an anonymous slot the anonymous axis of the same ordinal.
-/

namespace ShapeAlgebra.Resolve

/-- The first position of `source`, not before `next`, that holds a slot pairing with `slot`. -/
def firstFrom? (source : Slots) (next : Nat) (slot : Slot) : Option Nat :=
  ((source.zipIdx.drop next).find? fun (s, _) => s.pairs slot).map Prod.snd

/-- The position of `source`, not before `next`, that a slot of the target keeps. -/
def keeper? (source : Slots) (next : Nat) (slot : Slot) : Option Nat :=
  match slot with
  | .anonymous ordinal => (Slots.anonymousPosition? source ordinal).filter (next ≤ ·)
  | slot => firstFrom? source next slot

/-- The positions of `source` that the slots of `target` keep, none of them before `next`. -/
def keptAxes (spec : String) (source : Slots) (next : Nat) :
    Slots → Except ShapeError (List Nat)
  | [] => .ok []
  | slot :: target =>
    match keeper? source next slot with
    | some position => do
      let rest ← keptAxes spec source (position + 1) target
      .ok (position :: rest)
    | none => .error ⟨spec, .reduction slot.text⟩

/-- The axes of `source` that `target` does not keep, ascending. -/
def reducedAxes (spec : String) (source target : Slots) : Checked ShapeError (List Nat) := do
  let kept ← Checked.ofExcept (keptAxes spec source 0 target)
  .ok ((List.range source.length).filter fun i => !kept.contains i)

end ShapeAlgebra.Resolve
