import ShapeAlgebra.Shape

/-!
# Slots

A slot is one position of a shape as it is written in a spec: an expression, an anonymous axis,
or an axis whose size is to be inferred.  The anonymous axes of a side are numbered from the
left, and the number of one is its ordinal.
-/

namespace ShapeAlgebra

/-- One position of a written shape. -/
inductive Slot where
  | expr (e : Expr)
  /-- An axis without a name, the `ordinal`-th of its side counted from zero. -/
  | anonymous (ordinal : Nat)
  /-- An axis whose size follows from the others. -/
  | inferred
  deriving DecidableEq, Repr

namespace Slot

/-- Whether a slot is an anonymous axis. -/
def isAnonymous : Slot → Bool
  | .anonymous _ => true
  | _ => false

/-- Whether a slot is an axis to be inferred. -/
def isInferred : Slot → Bool
  | .inferred => true
  | _ => false

/-- The expression of a slot, if it is one. -/
def expr? : Slot → Option Expr
  | .expr e => some e
  | _ => none

/-- Whether two slots pair up: the same expression, the same ordinal, or both to be inferred. -/
def pairs : Slot → Slot → Bool
  | .expr a, .expr b => a.same b
  | .anonymous i, .anonymous j => i == j
  | .inferred, .inferred => true
  | _, _ => false

/-- The text of a slot. -/
def text : Slot → String
  | .expr e => e.symbolic
  | .anonymous _ => "_"
  | .inferred => "-1"

/-- Every slot pairs up with itself. -/
@[simp]
theorem pairs_self (s : Slot) : s.pairs s = true := by
  cases s <;> simp [pairs]

end Slot

/-- The slots of one side of a spec. -/
abbrev Slots := List Slot

namespace Slots

/-- The text of slots, separated by commas. -/
def text (slots : Slots) : String := ",".intercalate (slots.map Slot.text)

/-- The number of anonymous slots. -/
def anonymousCount (slots : Slots) : Nat := slots.countP Slot.isAnonymous

/-- The positions of the anonymous slots, ascending. -/
def anonymousPositions (slots : Slots) : List Nat :=
  (slots.zipIdx.filter fun (slot, _) => slot.isAnonymous).map Prod.snd

/-- The position of the anonymous slot that has `ordinal` others before it. -/
def anonymousPosition? (slots : Slots) (ordinal : Nat) : Option Nat :=
  slots.anonymousPositions[ordinal]?

/-- The first position that holds the same expression as `e`. -/
def positionOf? (slots : Slots) (e : Expr) : Option Nat :=
  slots.findIdx? fun slot => slot.expr?.any (·.same e)

/-- The annotation that slots make when all of them are expressions. -/
def toShape (spec : String) (slots : Slots) : Except ShapeError Shape :=
  slots.mapM fun slot =>
    match slot with
    | .expr e => .ok e
    | other => .error ⟨spec, .unreadable (.placeholder other.text)⟩

end Slots

end ShapeAlgebra
