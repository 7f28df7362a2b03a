import ShapeAlgebra.Dim.Decl
import ShapeAlgebra.Text.Bracketed

/-!
# The journal

What happens in a session, event by event.  An event has a level, which says how much attention
it deserves, and a text for the reader.
-/

namespace ShapeAlgebra

/-- How much attention an event deserves, from the most to the least. -/
inductive Level where
  | info
  | debug
  | trace
  deriving DecidableEq, Repr

/-- The name of a level. -/
def Level.name : Level → String
  | .info => "info"
  | .debug => "debug"
  | .trace => "trace"

/-- What can happen in a session. -/
inductive Event where
  /-- A symbol was declared for the first time. -/
  | declared (dim : Decl)
  /-- A declared symbol was declared again. -/
  | overwritten (old new : Decl)
  /-- A declared symbol got another size. -/
  | resized (dim : Decl)
  /-- A reshape was resolved. -/
  | viewed (spec : String) (shape sizes : List Size)
  /-- A permutation was resolved. -/
  | permuted (spec : String) (axes : List Nat)
  /-- An expansion was resolved. -/
  | expanded (spec : String) (shape factors : List Size)
  /-- A reduction was resolved. -/
  | reduced (spec : String) (axes : List Nat)
  /-- An alignment was resolved. -/
  | aligned (spec : String) (shape sizes : List Size)
  /-- A step of a warp took a tensor from one shape to another. -/
  | stepped (verbose : Bool) (kind step : String) (old new : List Size)
  deriving DecidableEq, Repr

namespace Event

/-- The level of an event: what replaces something that was there is worth knowing, what only
resolves is not, and the steps of a warp are as loud as the caller wants them. -/
def level : Event → Level
  | .overwritten _ _ => .info
  | .declared _ | .resized _ => .debug
  | .stepped verbose _ _ _ _ => if verbose then .info else .trace
  | _ => .trace

/-- The text of an event. -/
def text : Event → String
  | .declared dim => "New dimension variable declared " ++ dim.text ++ "."
  | .overwritten old new =>
    "Dimension variable " ++ old.text ++ " overwritten by " ++ new.text ++ "."
  | .resized dim => "Dimension variable " ++ dim.text ++ " resized."
  | .viewed spec shape sizes =>
    "view `" ++ spec ++ "`: " ++ Text.sizes shape ++ " -> " ++ Text.sizes sizes
  | .permuted spec axes => "permute `" ++ spec ++ "`: " ++ Text.positions axes
  | .expanded spec shape factors =>
    "expand `" ++ spec ++ "`: " ++ Text.sizes shape ++ " x " ++ Text.sizes factors
  | .reduced spec axes => "reduce `" ++ spec ++ "`: axes " ++ Text.positions axes
  | .aligned spec shape sizes =>
    "align `" ++ spec ++ "`: " ++ Text.sizes shape ++ " -> " ++ Text.sizes sizes
  | .stepped _ kind step old new =>
    kind ++ " `" ++ step ++ "`: " ++ Text.sizes old ++ " -> " ++ Text.sizes new

end Event

end ShapeAlgebra
