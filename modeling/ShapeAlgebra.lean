import ShapeAlgebra.Layout.Expr
import ShapeAlgebra.Session
import ShapeAlgebra.Transform
import ShapeAlgebra.Warp.Run
import ShapeAlgebra.Warp.ShapeHost
import ShapeAlgebra.Proofs.Outcome
import ShapeAlgebra.Proofs.Size
import ShapeAlgebra.Proofs.Expr.Over
import ShapeAlgebra.Proofs.Expr.Stripped
import ShapeAlgebra.Proofs.Slot.Position
import ShapeAlgebra.Proofs.Slot.Alike
import ShapeAlgebra.Proofs.Slot.Stripped
import ShapeAlgebra.Proofs.Spec.Numbering
import ShapeAlgebra.Proofs.Spec.Restate
import ShapeAlgebra.Proofs.Spec.Chain
import ShapeAlgebra.Proofs.Spec.Naming
import ShapeAlgebra.Proofs.Spec.Stripped
import ShapeAlgebra.Proofs.Resolve.Source
import ShapeAlgebra.Proofs.Resolve.View
import ShapeAlgebra.Proofs.Resolve.Align
import ShapeAlgebra.Proofs.Resolve.Expand
import ShapeAlgebra.Proofs.Resolve.Permute
import ShapeAlgebra.Proofs.Resolve.Reduce
import ShapeAlgebra.Proofs.Resolve.Traps
import ShapeAlgebra.Proofs.Resolve.Refusal
import ShapeAlgebra.Proofs.Resolve.Fitting
import ShapeAlgebra.Proofs.Resolve.Stripped
import ShapeAlgebra.Proofs.Warp.Plan
import ShapeAlgebra.Proofs.Warp.Run
import ShapeAlgebra.Proofs.Warp.ShapeHost
import ShapeAlgebra.Proofs.Warp.Composition
import ShapeAlgebra.Proofs.Warp.Invariant
import ShapeAlgebra.Proofs.Warp.Counting
import ShapeAlgebra.Proofs.Warp.Annotation
import ShapeAlgebra.Proofs.Warp.Expansion
import ShapeAlgebra.Proofs.Warp.Malformed
import ShapeAlgebra.Proofs.Warp.Naming
import ShapeAlgebra.Proofs.Warp.Declared
import ShapeAlgebra.Proofs.Registry.History
import ShapeAlgebra.Proofs.Session.Currency
import ShapeAlgebra.Proofs.Text.Lexeme
import ShapeAlgebra.Proofs.Arith.Grammar
import ShapeAlgebra.Proofs.Arith.Lexing
import ShapeAlgebra.Proofs.Arith.Reading
import ShapeAlgebra.Proofs.Arith.Printing
import ShapeAlgebra.Proofs.Arith.Faults
import ShapeAlgebra.Proofs.Arith.Meaning
import ShapeAlgebra.Proofs.Expr.Exact
import ShapeAlgebra.Proofs.Expr.Substitution
import ShapeAlgebra.Proofs.Expr.Locality
import ShapeAlgebra.Proofs.Expr.Comparison
import ShapeAlgebra.Proofs.Expr.ReadBack
import ShapeAlgebra.Proofs.Dim.Grammar
import ShapeAlgebra.Proofs.Dim.Reading
import ShapeAlgebra.Proofs.Dim.Spelling
import ShapeAlgebra.Proofs.Dim.Cutting
import ShapeAlgebra.Proofs.Registry.Update
import ShapeAlgebra.Proofs.Registry.Single
import ShapeAlgebra.Proofs.Registry.Replay
import ShapeAlgebra.Proofs.Session.Rebuild
import ShapeAlgebra.Proofs.Resolve.Arrangement
import ShapeAlgebra.Proofs.Resolve.Composition
import ShapeAlgebra.Proofs.Warp.RoundTrip
import ShapeAlgebra.Proofs.Resolve.Embedding
import ShapeAlgebra.Proofs.Resolve.Duality
import ShapeAlgebra.Proofs.Resolve.Changes
import ShapeAlgebra.Proofs.Resolve.Reordering
import ShapeAlgebra.Proofs.Warp.Permutation
import ShapeAlgebra.Proofs.Warp.Reshape
import ShapeAlgebra.Proofs.Warp.Overflow
import ShapeAlgebra.Proofs.Warp.Acceptance
import ShapeAlgebra.Proofs.Layout.Doc
import ShapeAlgebra.Proofs.Layout.Escape
import ShapeAlgebra.Proofs.Layout.Display
import ShapeAlgebra.Proofs.Spec.Cutting
import ShapeAlgebra.Proofs.Spec.Compact
import ShapeAlgebra.Proofs.Layout.Nesting
