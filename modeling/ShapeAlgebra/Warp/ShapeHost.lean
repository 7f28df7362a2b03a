import ShapeAlgebra.Text.Bracketed
import ShapeAlgebra.Warp.Host

/-!
# The host of shapes

A host whose tensors are nothing but their shapes.  It refuses what a host with elements would
have to refuse, and so it shows beforehand whether a warp goes through.
-/

namespace ShapeAlgebra.Warp

/-! ## Refusals -/

/-- Why the host of shapes refuses a call. -/
inductive HostError where
  /-- A view would change the number of elements. -/
  | elementCount (before after : List Size)
  /-- A view leaves more than one axis to be inferred. -/
  | manyInferred (sizes : List Size)
  /-- A list of axes is not a permutation of all of them. -/
  | notPermutation (axes : List Nat) (rank : Nat)
  /-- An expansion does not have one factor for each axis. -/
  | factorCount (expected found : Nat)
  /-- A factor is neither positive nor `-1`. -/
  | badFactor (factor : Size)
  /-- The number of elements does not fit in a size. -/
  | overflow (sizes : List Size)
  deriving DecidableEq, Repr

/-- The wording of a refusal. -/
def HostError.message : HostError → String
  | .elementCount before after =>
    "cannot view " ++ Text.sizes before ++ " as " ++ Text.sizes after ++ ": element counts differ"
  | .manyInferred sizes => "only one axis can be inferred, got " ++ Text.sizes sizes
  | .notPermutation axes rank =>
    Text.positions axes ++ " is not a permutation of " ++ toString rank ++ " axes"
  | .factorCount expected found =>
    "expected " ++ toString expected ++ " expansion factors, got " ++ toString found
  | .badFactor factor => "invalid expansion factor " ++ factor.text
  | .overflow sizes =>
    "element count of " ++ Text.sizes sizes ++ " overflows a 64-bit integer"

namespace ShapeHost

/-- The product of `sizes`, refused when it is too large. -/
def countElements (sizes : List Size) : Checked HostError Size :=
  match Size.product? sizes with
  | some n => .ok n
  | none => Checked.refuse (.overflow sizes)

/-! ## Views -/

/-- The sizes `sizes` with `n` for the one that is to be inferred. -/
def fillInferred (n : Size) (sizes : List Size) : List Size :=
  sizes.map fun s => if s = -1 then n else s

/-- The sizes `sizes` with the one to be inferred worked out, if there is one, for a tensor of
shape `shape` with `total` elements. -/
def infer (shape : List Size) (total : Size) (sizes : List Size) :
    Checked HostError (List Size) :=
  match sizes.count (-1) with
  | 0 => .ok sizes
  | 1 => do
    let known ← countElements (sizes.filter (· ≠ -1))
    if known ≤ 0 then Checked.refuse (.elementCount shape sizes)
    else do
      let rest ← Size.remainder total known
      if rest = 0 then
        let n ← Size.quotient total known
        .ok (fillInferred n sizes)
      else Checked.refuse (.elementCount shape sizes)
  | _ => Checked.refuse (.manyInferred sizes)

/-- The shape that a view gives to a tensor. -/
def view (shape sizes : List Size) : Checked HostError (List Size) := do
  let total ← countElements shape
  let result ← infer shape total sizes
  if result.any (· < 0) then Checked.refuse (.elementCount shape sizes)
  else do
    let count ← countElements result
    if count = total then .ok result else Checked.refuse (.elementCount shape sizes)

/-! ## Permutations -/

/-- Whether each of `axes` is unseen when it comes up, where `seen` has an entry for every axis that
tells whether it came up before.  An axis without an entry counts as seen. -/
def allUnseen (seen : List Bool) : List Nat → Bool
  | [] => true
  | axis :: axes => seen[axis]? == some false && allUnseen (seen.set axis true) axes

/-- Whether `axes` lists every axis of a tensor of rank `rank` once: they are as many as the rank
says, and each one is unseen when it comes up. -/
def isPermutation (rank : Nat) (axes : List Nat) : Bool :=
  axes.length == rank && allUnseen (List.replicate rank false) axes

/-- The shape that a permutation gives to a tensor. -/
def permute (shape : List Size) (axes : List Nat) : Checked HostError (List Size) :=
  if isPermutation shape.length axes then axes.mapM (Checked.elementAt shape)
  else Checked.refuse (.notPermutation axes shape.length)

/-! ## Expansions -/

/-- The size of an axis of `shape` after an expansion. -/
def expandAxis (shape : List Size) (n factor : Size) : Checked HostError Size :=
  if factor = -1 then .ok n
  else if 0 < factor then
    match Size.mul? n factor with
    | some m => .ok m
    | none => Checked.refuse (.overflow shape)
  else Checked.refuse (.badFactor factor)

/-- The shape that an expansion gives to a tensor. -/
def expand (shape factors : List Size) : Checked HostError (List Size) :=
  if factors.length = shape.length then
    (shape.zip factors).mapM fun (n, factor) => expandAxis shape n factor
  else Checked.refuse (.factorCount shape.length factors.length)

end ShapeHost

/-- The host whose tensors are their shapes. -/
def shapeHost : Host (List Size) HostError where
  shape := id
  view := ShapeHost.view
  permute := ShapeHost.permute
  expand := ShapeHost.expand

end ShapeAlgebra.Warp
