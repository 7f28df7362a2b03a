import ShapeAlgebra.Proofs.Spec.Numbering

/-!
# Expressions over a registry

An expression is over a registry when its dimensions are the registered ones.  Whatever a reader
makes of a text is over the registry it was read with.  Over one registry a symbol stands for one
dimension, so that expressions that are the same are equal, and a dimension that is bound to the
size it was declared with may as well not be bound.
-/

namespace ShapeAlgebra

variable {r : Registry}

namespace Expr

/-- All dimensions of an expression are registered in `r`. -/
def Over (r : Registry) : Expr → Prop
  | .var d => r.find? d.symbol = some d
  | .lit _ => True
  | .binary _ lhs rhs => lhs.Over r ∧ rhs.Over r

/-- Over one registry, dimensions of the same axis are equal. -/
lemma Over.dim_eq {d d' : Dim} (h : (Expr.var d).Over r) (h' : (Expr.var d').Over r)
    (hsym : d.symbol = d'.symbol) : d = d' := by
  have hfind : some d = some d' := by
    rw [← show r.find? d.symbol = some d from h, hsym]
    exact h'
  exact Option.some.inj hfind

/-- Over one registry, expressions that are the same are equal. -/
lemma Over.eq_of_same {a b : Expr} (ha : a.Over r) (hb : b.Over r) (h : a.same b = true) :
    a = b := by
  induction a generalizing b with
  | var d =>
    cases b with
    | var d' => rw [ha.dim_eq hb (Dim.sameAxis_iff.1 h)]
    | lit _ => cases h
    | binary _ _ _ => cases h
  | lit n =>
    cases b with
    | var _ => cases h
    | lit n' => rw [eq_of_beq h]
    | binary _ _ _ => cases h
  | binary op lhs rhs ihl ihr =>
    cases b with
    | var _ => cases h
    | lit _ => cases h
    | binary op' lhs' rhs' =>
      rw [same_binary, Bool.and_eq_true, Bool.and_eq_true] at h
      rw [eq_of_beq h.1.1, ihl ha.1 hb.1 h.1.2, ihr ha.2 hb.2 h.2]

/-- Over a registry, the value of an expression depends only on the sizes of registered
dimensions. -/
lemma Over.evalIn_congr {b b' : Binding} {e : Expr} (he : e.Over r)
    (h : ∀ d : Dim, (Expr.var d).Over r → sizeOfDim b d = sizeOfDim b' d) :
    e.evalIn b = e.evalIn b' := by
  induction e with
  | var d => exact h d he
  | lit n => rfl
  | binary op lhs rhs ihl ihr => rw [evalIn_binary, evalIn_binary, ihl he.1, ihr he.2]

end Expr

/-! ## Readers -/

/-- What a term compiles to is over the registry that its identifiers were looked up in. -/
lemma Term.over_of_compile {spec : String} {t : Term} {e : Expr}
    (h : t.compile r spec = .ok e) : e.Over r := by
  induction t using Term.compile.induct generalizing e with
  | case1 symbol =>
    obtain ⟨d, hd, rfl⟩ := map_eq_ok_iff.1 h
    unfold Registry.resolve at hd
    split at hd
    · rename_i d' hfind
      obtain rfl := Except.ok.inj hd
      have hsym : d'.symbol = symbol := by
        simpa using List.find?_some hfind
      change r.find? d'.symbol = some d'
      rw [hsym, hfind]
    · cases hd
  | case2 value =>
    obtain rfl := Except.ok.inj h
    exact trivial
  | case3 value =>
    obtain rfl := Except.ok.inj h
    exact trivial
  | case4 operand hint ih =>
    rw [Term.compile.eq_4 _ _ _ hint] at h
    obtain ⟨e', he', hmul⟩ := bind_eq_ok_iff.1 h
    obtain rfl := Except.ok.inj hmul
    exact ⟨trivial, ih he'⟩
  | case5 op lhs rhs ihl ihr =>
    obtain ⟨l, hl, hrest⟩ := bind_eq_ok_iff.1 h
    obtain ⟨r', hr, hop⟩ := bind_eq_ok_iff.1 hrest
    have hboth : l.Over r ∧ r'.Over r := ⟨ihl hl, ihr hr⟩
    cases op with
    | floorDiv =>
      have hdiv : l.floorDiv r' = .ok e := mapError_eq_ok_iff.1 hop
      unfold Expr.floorDiv at hdiv
      split at hdiv
      · cases hdiv
      · obtain rfl := Except.ok.inj hdiv
        exact hboth
    | trueDiv => cases hop
    | _ =>
      obtain rfl := Except.ok.inj hop
      exact hboth

/-- An expression that is read from a text is over the registry it was read with. -/
lemma Registry.over_of_readExpr {spec : String} {cs : List Char} {e : Expr}
    (h : r.readExpr spec cs = .ok e) : e.Over r := by
  rw [Registry.readExpr_eq] at h
  split at h
  · exact Term.over_of_compile h
  · cases h

/-! ## Slots -/

/-- All expressions among `slots` are over `r`. -/
def Slots.Over (r : Registry) (slots : Slots) : Prop := ∀ e : Expr, .expr e ∈ slots → e.Over r

/-- Each single expression of slots that are over a registry is over it. -/
lemma Slots.Over.of_getElem? {slots : Slots} {position : Nat} {e : Expr} (h : slots.Over r)
    (hslot : slots[position]? = some (.expr e)) : e.Over r :=
  h e (List.mem_of_getElem? hslot)

namespace Spec

/-- The expression of a slot is over the registry that the slot was read with. -/
lemma over_of_readSlot {mode : NumberMode} {spec : String} {next : Nat} {raw : List Char}
    {e : Expr} (h : readSlot r mode spec next raw = .ok (.expr e)) : e.Over r := by
  unfold readSlot at h
  split at h
  · cases h
  · split at h
    · cases h
    · obtain ⟨e', he', hexpr⟩ := map_eq_ok_iff.1 h
      obtain rfl := Slot.expr.inj hexpr
      exact Registry.over_of_readExpr he'

/-- Slots that are read one after the other are over the registry. -/
lemma over_of_readSlots {mode : NumberMode} {spec : String} {next : Nat}
    {raws : List (List Char)} {slots : Slots} (h : readSlots r mode spec next raws = .ok slots) :
    slots.Over r := by
  intro e he
  obtain ⟨raw, -, ordinal, hslot⟩ := exists_of_mem_right (forall₂_readSlot_of_readSlots h) he
  exact over_of_readSlot hslot

/-- The slots of a side are over the registry that the side was read with. -/
lemma over_of_readSide {mode : NumberMode} {spec : String} {side : List Char} {slots : Slots}
    (h : readSide r mode spec side = .ok slots) : slots.Over r :=
  over_of_readSlots h

end Spec

end ShapeAlgebra
