import ShapeAlgebra.Fault
import ShapeAlgebra.Size

/-!
# Hosts

A host owns tensors and knows three operations on them.  In a view, the size `-1` stands for an
axis to be inferred; in an expansion, the factor `-1` leaves an axis as it is and any other one
multiplies its size.  What a host does beyond that is its own affair: it may refuse a call for
reasons of its own.
-/

namespace ShapeAlgebra.Warp

/-- A call of a host operation. -/
inductive Call where
  | view (sizes : List Size)
  | permute (axes : List Nat)
  | expand (factors : List Size)
  deriving DecidableEq, Repr

/-- The name of the operation that is called. -/
def Call.name : Call → String
  | .view _ => "view"
  | .permute _ => "permute"
  | .expand _ => "expand"

/-- An owner of tensors of type `τ`, which refuses calls for causes of type `ε`. -/
structure Host (τ ε : Type) where
  /-- The shape of a tensor. -/
  shape : τ → List Size
  view : τ → List Size → Checked ε τ
  permute : τ → List Nat → Checked ε τ
  expand : τ → List Size → Checked ε τ

namespace Host

variable {τ ε : Type}

/-- What a host makes of a tensor on a call. -/
def perform (h : Host τ ε) (t : τ) : Call → Checked ε τ
  | .view sizes => h.view t sizes
  | .permute axes => h.permute t axes
  | .expand factors => h.expand t factors

@[simp]
theorem perform_view (h : Host τ ε) (t : τ) (sizes : List Size) :
    h.perform t (.view sizes) = h.view t sizes := rfl

@[simp]
theorem perform_permute (h : Host τ ε) (t : τ) (axes : List Nat) :
    h.perform t (.permute axes) = h.permute t axes := rfl

@[simp]
theorem perform_expand (h : Host τ ε) (t : τ) (factors : List Size) :
    h.perform t (.expand factors) = h.expand t factors := rfl

end Host

/-! ## Hosts that refuse an operation -/

/-- The causes of a host that refuses one operation altogether. -/
inductive Refusal (ε : Type) where
  /-- The operation is the one that is always refused. -/
  | always (name : String)
  /-- The host itself refused. -/
  | host (cause : ε)
  deriving DecidableEq, Repr

/-- The wording of a refusal, given the wording of the host. -/
def Refusal.message {ε : Type} (wording : ε → String) : Refusal ε → String
  | .always name => name ++ " refused"
  | .host cause => wording cause

namespace Host

variable {τ ε : Type}

/-- The host that refuses every call of the operation `name` and is `h` otherwise. -/
def refusing (h : Host τ ε) (name : Option String) : Host τ (Refusal ε) where
  shape := h.shape
  view t sizes := guarded t (.view sizes)
  permute t axes := guarded t (.permute axes)
  expand t factors := guarded t (.expand factors)
where
  /-- The answer to a call, refused if it is one of `name`. -/
  guarded (t : τ) (c : Call) : Checked (Refusal ε) τ :=
    if name = some c.name then Checked.refuse (.always c.name)
    else (h.perform t c).mapError (Fault.map .host)

end Host

end ShapeAlgebra.Warp
