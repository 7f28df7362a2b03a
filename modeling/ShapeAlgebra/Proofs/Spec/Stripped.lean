import ShapeAlgebra.Proofs.Slot.Stripped
import ShapeAlgebra.Spec.Basic

/-!
# Reading without declared sizes

The readers look a symbol up for the dimension that it stands for, and not for the size of that.
So what is read with a stripped registry is what is read with the registry itself, stripped, and an
error is the same error.  The law goes up from symbols through terms and slots to chains.
-/

namespace ShapeAlgebra

variable (r : Registry) (mode : NumberMode) (spec : String)

/-! ## Registries -/

namespace Registry

/-- The registry of the same names and symbols in which no dimension has a size. -/
def stripped : Registry := { table := r.table.map Dim.stripped }

/-- Whether two registries have the same symbols and names, whatever the sizes. -/
def SameNames (r r' : Registry) : Prop :=
  r.symbols = r'.symbols ∧ r.table.map Dim.name = r'.table.map Dim.name

/-- Symbols and names are all that is left of a stripped registry. -/
lemma SameNames.stripped_eq {r r' : Registry} (h : r.SameNames r') : r.stripped = r'.stripped := by
  obtain ⟨hsymbols, hnames⟩ := h
  have hfactor (table : List Dim) : table.map Dim.stripped =
      ((table.map Dim.symbol).zip (table.map Dim.name)).map fun p => ⟨⟨p.2, p.1, none⟩, 0⟩ := by
    rw [List.zip_map', List.map_map]
    rfl
  unfold stripped
  rw [hfactor r.table, hfactor r'.table, hnames]
  change r.table.map Dim.symbol = r'.table.map Dim.symbol at hsymbols
  rw [hsymbols]

@[simp]
lemma find?_stripped (symbol : String) :
    r.stripped.find? symbol = (r.find? symbol).map Dim.stripped := by
  unfold find? stripped
  rw [List.find?_map]
  rfl

/-- A symbol is resolved without regard to sizes. -/
lemma resolve_stripped (symbol : String) :
    r.stripped.resolve spec symbol = (r.resolve spec symbol).map Dim.stripped := by
  unfold resolve
  rw [find?_stripped]
  cases r.find? symbol <;> rfl

end Registry

/-! ## Slot arithmetic -/

/-- A floor division is refused without regard to sizes. -/
lemma Expr.floorDiv_stripped (lhs rhs : Expr) :
    lhs.stripped.floorDiv rhs.stripped = (lhs.floorDiv rhs).map Expr.stripped := by
  simp only [floorDiv, stripped_eq_lit_iff, symbolic_stripped]
  split <;> rfl

/-- An operator compiles without regard to sizes. -/
lemma Term.Op.compile_stripped (op : Term.Op) (lhs rhs : Expr) :
    op.compile spec lhs.stripped rhs.stripped = (op.compile spec lhs rhs).map Expr.stripped := by
  cases op with
  | floorDiv => simp only [compile, Expr.floorDiv_stripped, mapError_map]
  | trueDiv =>
    simp only [compile, Expr.symbolic_stripped]
    rfl
  | _ => rfl

/-- A term compiles without regard to sizes. -/
lemma Term.compile_stripped (t : Term) :
    t.compile r.stripped spec = (t.compile r spec).map Expr.stripped := by
  induction t using Term.compile.induct with
  | case1 symbol =>
    simp only [Term.compile, Registry.resolve_stripped]
    cases r.resolve spec symbol <;> rfl
  | case2 value => rfl
  | case3 value => rfl
  | case4 operand hint ih =>
    rw [Term.compile.eq_4 _ _ _ hint, Term.compile.eq_4 _ _ _ hint, ih, bind_map_eq, map_bind_eq]
    rfl
  | case5 op lhs rhs ihl ihr =>
    simp only [Term.compile, ihl, ihr, bind_map_eq, map_bind_eq, Op.compile_stripped]

/-- A text is read as an expression without regard to sizes. -/
lemma Registry.readExpr_stripped (cs : List Char) :
    r.stripped.readExpr spec cs = (r.readExpr spec cs).map Expr.stripped := by
  rw [Registry.readExpr_eq, Registry.readExpr_eq]
  cases Term.read? cs with
  | some t => exact Term.compile_stripped r spec t
  | none => rfl

/-! ## Sides and chains -/

namespace Spec

/-- A slot is read without regard to sizes. -/
lemma readSlot_stripped (next : Nat) (raw : List Char) :
    readSlot r.stripped mode spec next raw = (readSlot r mode spec next raw).map Slot.stripped := by
  unfold readSlot
  split
  · rfl
  · split
    · rfl
    · rw [Registry.readExpr_stripped]
      cases r.readExpr spec raw <;> rfl

/-- Ordinals are counted without regard to sizes. -/
lemma nextOrdinal_stripped (next : Nat) (slot : Slot) :
    nextOrdinal next slot.stripped = nextOrdinal next slot := by
  unfold nextOrdinal
  rw [Slot.isAnonymous_stripped]

/-- Slots are read without regard to sizes. -/
lemma readSlots_stripped (next : Nat) (raws : List (List Char)) :
    readSlots r.stripped mode spec next raws =
      (readSlots r mode spec next raws).map Slots.stripped := by
  induction raws generalizing next with
  | nil => rfl
  | cons raw raws ih =>
    simp only [readSlots, readSlot_stripped, nextOrdinal_stripped, ih, bind_map_eq, map_bind_eq]
    rfl

/-- A side that is read without declared sizes. -/
lemma readSide_stripped (side : List Char) :
    readSide r.stripped mode spec side = (readSide r mode spec side).map Slots.stripped :=
  readSlots_stripped r mode spec 0 (cutSide side)

/-- A chain that is read without declared sizes. -/
lemma readChain_stripped :
    readChain r.stripped spec = (readChain r spec).map (List.map Slots.stripped) := by
  unfold readChain
  rw [← mapM_map_eq]
  congr 1
  funext side
  exact readSide_stripped r .size spec side

end Spec

end ShapeAlgebra
