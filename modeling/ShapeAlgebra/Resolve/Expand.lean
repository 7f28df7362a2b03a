import ShapeAlgebra.Resolve.Source

/-!
# Expanding

An expansion lists, for every axis, the factor by which it grows, or `-1` if it stays as it is.
The new sizes are given either for named axes, or by a target that is compared with the source
position by position.  An axis grows only by a whole factor.
-/

namespace ShapeAlgebra.Resolve

/-- The factor by which the axis `slot` grows from `before` to `after`. -/
def growth (spec slot : String) (before after : Size) : Checked ShapeError Size :=
  let uneven : ShapeError := ⟨spec, .wholeFactor slot before after⟩
  if before ≤ 0 then Checked.refuse uneven
  else do
    let rest ← Size.remainder after before
    if rest = 0 then Size.quotient after before else Checked.refuse uneven

/-! ## Named axes -/

/-- The position of the axis that an expansion names. -/
def namedAxis (spec : String) (source : Slots) (axis : Expr) : Checked ShapeError Nat :=
  match Slots.positionOf? source axis with
  | some position => .ok position
  | none => Checked.refuse ⟨spec, .unmatched axis.symbolic⟩

/-- The factors `factors` with that of one more expansion put in. -/
def expandAxis (spec : String) (source : Slots) (shape factors : List Size)
    (expansion : Expr × Expr) : Checked ShapeError (List Size) := do
  let (axis, size) := expansion
  let position ← namedAxis spec source axis
  let after ← evalOn spec source shape size
  let before ← Checked.elementAt shape position
  let factor ← growth spec axis.symbolic before after
  .ok (factors.set position factor)

/-- The factors of the expansions of named axes; the last one for an axis counts. -/
def expand (spec : String) (source : Slots) (expansions : List (Expr × Expr))
    (shape : List Size) : Checked ShapeError (List Size) := do
  Checked.ofExcept (checkSource spec source shape)
  expansions.foldlM (expandAxis spec source shape) (List.replicate source.length (-1))

/-! ## Position by position -/

/-- The factor of the axis that `before` and `after` describe, whose size is `n` if there is such
an axis.  Only an expression that is not the one in the source makes an axis grow. -/
def slotGrowth (spec : String) (source : Slots) (shape : List Size) (before after : Slot)
    (n : Option Size) : Checked ShapeError Size :=
  match after with
  | .anonymous _ | .inferred => .ok (-1)
  | .expr e =>
    if before.pairs after then .ok (-1)
    else do
      let size ← evalOn spec source shape e
      match n with
      | some n => growth spec before.text n size
      | none => Checked.trap .outOfRange

/-- The factors of the axes that `before` and `after` describe, whose sizes are `sizes`. -/
def slotGrowths (spec : String) (source : Slots) (shape : List Size) :
    Slots → Slots → List Size → Checked ShapeError (List Size)
  | before :: befores, after :: afters, sizes => do
    let factor ← slotGrowth spec source shape before after sizes.head?
    let factors ← slotGrowths spec source shape befores afters sizes.tail
    .ok (factor :: factors)
  | _, _, _ => .ok []

/-- The factors of the expansion from `source` to `target`, position by position. -/
def expandPositional (spec : String) (source target : Slots) (shape : List Size) :
    Checked ShapeError (List Size) := do
  Checked.ofExcept (checkSource spec source shape)
  if source.length ≠ target.length then
    Checked.refuse ⟨spec, .axisCount source.length target.length⟩
  else slotGrowths spec source shape source target shape

end ShapeAlgebra.Resolve
