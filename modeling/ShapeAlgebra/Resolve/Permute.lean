import ShapeAlgebra.Resolve.Source

/-!
# Permuting

A permutation lists, for every slot of the target, the axis of the source it comes from.  An
anonymous slot comes from the anonymous axis of the same ordinal; any other slot comes from the
first axis it pairs with that no slot before it has come from.
-/

namespace ShapeAlgebra.Resolve

/-- The first position of `source` outside `taken` that holds a slot pairing with `slot`. -/
def firstFree? (source : Slots) (taken : List Nat) (slot : Slot) : Option Nat :=
  (source.zipIdx.find? fun (s, i) => !taken.contains i && s.pairs slot).map Prod.snd

/-- The position of `source` that a slot of the target comes from, when the positions in `taken`
are used up. -/
def origin? (source : Slots) (taken : List Nat) (slot : Slot) : Option Nat :=
  match slot with
  | .anonymous ordinal => Slots.anonymousPosition? source ordinal
  | slot => firstFree? source taken slot

/-- The positions of `source` that the slots of `target` come from, when the positions in `taken`
are used up. -/
def origins (spec : String) (source : Slots) (taken : List Nat) :
    Slots → Except ShapeError (List Nat)
  | [] => .ok []
  | slot :: target =>
    match origin? source taken slot with
    | some position => do
      let rest ← origins spec source (position :: taken) target
      .ok (position :: rest)
    | none => .error ⟨spec, .unmatched slot.text⟩

/-- The permutation that takes the order of `source` to the order of `target`. -/
def permute (spec : String) (source target : Slots) : Checked ShapeError (List Nat) :=
  if Slots.anonymousCount source ≠ Slots.anonymousCount target then
    Checked.refuse (placeholderError spec source target)
  else if source.length ≠ target.length then
    Checked.refuse ⟨spec, .mismatch (.slotCount source.length (Slots.text source)
      target.length (Slots.text target))⟩
  else Checked.ofExcept (origins spec source [] target)

end ShapeAlgebra.Resolve
