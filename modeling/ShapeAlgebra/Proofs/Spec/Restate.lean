import ShapeAlgebra.Proofs.Outcome
import ShapeAlgebra.Spec.Basic

/-!
# Reading a part of another spec

The readers take the spec that a text belongs to only to name it in their errors.  So the same
text, read as a part of another spec, gives the same result, or the same error restated for that
spec.  The law is proved for identifiers first and then goes up through terms and slots to sides.
-/

namespace ShapeAlgebra

variable (r : Registry) (mode : NumberMode) (spec spec' : String)

/-! ## Slot arithmetic -/

/-- A symbol is resolved alike in every spec. -/
lemma Registry.resolve_restate (symbol : String) :
    r.resolve spec' symbol = (r.resolve spec symbol).mapError (ShapeError.inSpec spec') := by
  unfold Registry.resolve
  cases r.find? symbol <;> rfl

/-- An operator compiles alike in every spec. -/
lemma Term.Op.compile_restate (op : Term.Op) (lhs rhs : Expr) :
    op.compile spec' lhs rhs = (op.compile spec lhs rhs).mapError (ShapeError.inSpec spec') := by
  cases op with
  | floorDiv => cases h : lhs.floorDiv rhs <;> simp [compile, h, Except.mapError, ShapeError.inSpec]
  | _ => rfl

/-- A term compiles alike in every spec. -/
lemma Term.compile_restate (t : Term) :
    t.compile r spec' = (t.compile r spec).mapError (ShapeError.inSpec spec') := by
  induction t using Term.compile.induct with
  | case1 symbol =>
    simp only [Term.compile]
    rw [Registry.resolve_restate r spec spec', mapError_map]
  | case2 value => rfl
  | case3 value => rfl
  | case4 operand hint ih =>
    rw [Term.compile.eq_4 _ _ _ hint, Term.compile.eq_4 _ _ _ hint, mapError_bind, ih]
    rfl
  | case5 op lhs rhs ihl ihr =>
    simp only [Term.compile, mapError_bind, ihl, ihr, Op.compile_restate spec spec']

/-- A text is the same expression in every spec. -/
lemma Registry.readExpr_restate (cs : List Char) :
    r.readExpr spec' cs = (r.readExpr spec cs).mapError (ShapeError.inSpec spec') := by
  rw [Registry.readExpr_eq, Registry.readExpr_eq]
  cases Term.read? cs with
  | some t => exact Term.compile_restate r spec spec' t
  | none => rfl

/-! ## Sides -/

namespace Spec

/-- A text is the same slot in every spec. -/
lemma readSlot_restate (next : Nat) (raw : List Char) :
    readSlot r mode spec' next raw =
      (readSlot r mode spec next raw).mapError (ShapeError.inSpec spec') := by
  unfold readSlot
  split
  · rfl
  · split
    · rfl
    · rw [Registry.readExpr_restate r spec spec', mapError_map]

/-- Texts are the same slots in every spec. -/
lemma readSlots_restate (next : Nat) (raws : List (List Char)) :
    readSlots r mode spec' next raws =
      (readSlots r mode spec next raws).mapError (ShapeError.inSpec spec') := by
  induction raws generalizing next with
  | nil => rfl
  | cons raw raws ih =>
    simp only [readSlots, mapError_bind, readSlot_restate r mode spec spec', ih]
    rfl

/-- A side of one spec, read as a side of another. -/
lemma readSide_restate (side : List Char) :
    readSide r mode spec' side =
      (readSide r mode spec side).mapError (ShapeError.inSpec spec') :=
  readSlots_restate r mode spec spec' 0 (cutSide side)

/-- A side that can be read is the same in every spec. -/
lemma readSide_eq_ok_of_eq_ok {side : List Char} {slots : Slots}
    (h : readSide r mode spec side = .ok slots) : readSide r mode spec' side = .ok slots := by
  rw [readSide_restate r mode spec spec', h]
  rfl

end Spec

end ShapeAlgebra
