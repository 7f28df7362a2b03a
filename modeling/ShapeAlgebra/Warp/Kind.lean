import ShapeAlgebra.Text.Blank

/-!
# Kinds of steps

The steps of a warp are of four kinds, each written as one letter.
-/

namespace ShapeAlgebra.Warp

/-- The kinds of steps. -/
inductive StepKind where
  | view
  | permute
  | expand
  /-- A view that only inserts axes of size one. -/
  | align
  deriving DecidableEq, Repr

/-- The name of a kind. -/
def StepKind.name : StepKind → String
  | .view => "view"
  | .permute => "permute"
  | .expand => "expand"
  | .align => "align"

/-- The kind that a letter stands for; reshaping and transposing are other words for viewing and
permuting. -/
def StepKind.ofTag? : Char → Option StepKind
  | 'v' | 'r' => some .view
  | 'p' | 't' => some .permute
  | 'e' => some .expand
  | 'a' => some .align
  | _ => none

end ShapeAlgebra.Warp
