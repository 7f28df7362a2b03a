import ShapeAlgebra.Proofs.Expr.Over
import ShapeAlgebra.Proofs.Resolve.Permute
import ShapeAlgebra.Proofs.Resolve.View

/-!
# Shapes that fit their source

A shape fits slots when there is an axis for each of them and every expression among them has the
size of its axis as its value under the declared sizes.  On a shape that fits the source the three
ways to a size agree: an axis with the same expression, a dimension bound to the size of its axis,
and a declared size.  What they agree on is the value of the expression, and so a view and a
permutation lead to shapes that fit their targets.
-/

namespace ShapeAlgebra

variable {r : Registry} {source target slots : Slots} {shape : List Size}

/-! ## Fitting -/

/-- Whether an axis of size `n` fits a slot: an expression has to have that value, and every other
slot is free. -/
def Slot.fits : Slot → Size → Bool
  | .expr e, n => Shape.axisFits e n
  | .anonymous _, _ | .inferred, _ => true

/-- Whether a shape fits slots, axis by axis. -/
def Slots.fits (slots : Slots) (shape : List Size) : Bool :=
  slots.length == shape.length && (slots.zip shape).all fun (slot, n) => slot.fits n

/-- An axis fits a size if that is the value of its expression. -/
lemma Shape.axisFits_iff {e : Expr} {n : Size} : axisFits e n = true ↔ e.eval = .ok n := by
  unfold axisFits
  cases e.eval with
  | ok m => simp
  | error _ => simp

/-- An expression fits its value only. -/
lemma Slot.fits_expr_iff {e : Expr} {n : Size} :
    (Slot.expr e).fits n = true ↔ e.eval = .ok n :=
  Shape.axisFits_iff

/-- Slots fit a shape if there are as many of them and each one fits its size. -/
lemma Slots.fits_iff_forall₂ :
    slots.fits shape = true ↔
      List.Forall₂ (fun slot n => Slot.fits slot n = true) slots shape := by
  rw [List.forall₂_iff_zip]
  simp [Slots.fits]

/-- An expression among slots that fit has the size beside it as its value. -/
lemma Slots.eval_of_mem_zip (h : slots.fits shape = true) {e : Expr} {n : Size}
    (hmem : (.expr e, n) ∈ slots.zip shape) : e.eval = .ok n :=
  Slot.fits_expr_iff.1 (List.forall₂_zip (fits_iff_forall₂.1 h) hmem)

/-- An expression among slots that fit has the size at its position as its value. -/
lemma Slots.eval_of_getElem? (h : slots.fits shape = true) {position : Nat} {e : Expr} {n : Size}
    (hslot : slots[position]? = some (.expr e)) (hn : shape[position]? = some n) :
    e.eval = .ok n := by
  refine eval_of_mem_zip h (List.mem_iff_getElem?.2 ⟨position, ?_⟩)
  rw [List.getElem?_zip_eq_some]
  exact ⟨hslot, hn⟩

/-- A shape fits slots it is related to if the relation gives every expression among them its
value. -/
lemma Slots.fits_of_forall₂ {R : Slot → Size → Prop} (h : List.Forall₂ R slots shape)
    (hexpr : ∀ e n, .expr e ∈ slots → R (.expr e) n → e.eval = .ok n) :
    slots.fits shape = true := by
  have hboth := (List.forall₂_and_left slots shape).2 ⟨fun _ hmem => hmem, h⟩
  refine fits_iff_forall₂.2 (hboth.imp ?_)
  rintro slot n ⟨hmem, hrel⟩
  cases slot with
  | expr e => exact Slot.fits_expr_iff.2 (hexpr e n hmem hrel)
  | anonymous _ => rfl
  | inferred => rfl

/-- Slots that are all expressions fit one shape at most. -/
lemma Slots.eq_of_fits (hexpr : ∀ slot ∈ slots, ∃ e, slot = .expr e) {shape' : List Size}
    (h : slots.fits shape = true) (h' : slots.fits shape' = true) : shape = shape' := by
  rw [fits_iff_forall₂] at h h'
  induction slots generalizing shape shape' with
  | nil => rw [List.forall₂_nil_left_iff.1 h, List.forall₂_nil_left_iff.1 h']
  | cons slot slots ih =>
    obtain ⟨n, rest, hn, hrest, rfl⟩ := List.forall₂_cons_left_iff.1 h
    obtain ⟨n', rest', hn', hrest', rfl⟩ := List.forall₂_cons_left_iff.1 h'
    obtain ⟨e, rfl⟩ := hexpr slot List.mem_cons_self
    rw [Slot.fits_expr_iff] at hn hn'
    rw [hn] at hn'
    rw [Except.ok.inj hn', ih (fun s hs => hexpr s (List.mem_cons_of_mem _ hs)) hrest hrest']

namespace Resolve

/-! ## Values on a source that fits -/

/-- A size that a dimension is bound to is that of an axis where the dimension stands alone. -/
lemma mem_zip_of_binding {d : Dim} {n : Size} (h : binding source shape d = some n) :
    ∃ d', (.expr (.var d'), n) ∈ source.zip shape ∧ d'.symbol = d.symbol := by
  rw [binding_eq_bind_positionOf?, Option.bind_eq_some_iff] at h
  obtain ⟨position, hposition, hn⟩ := h
  obtain ⟨e, hslot, hsame⟩ := Slots.getElem?_of_positionOf? hposition
  cases e with
  | var d' =>
    have hzip : (source.zip shape)[position]? = some (.expr (.var d'), n) :=
      List.getElem?_zip_eq_some.2 ⟨hslot, hn⟩
    exact ⟨d', List.mem_of_getElem? hzip, Dim.sameAxis_iff.1 hsame⟩
  | lit _ => cases hsame
  | binary _ _ _ => cases hsame

/-- On a source that fits, the binding binds no dimension to another size than the declared
one. -/
lemma evalIn_binding (hsource : source.Over r) (hfits : source.fits shape = true) {e : Expr}
    (he : e.Over r) : e.evalIn (binding source shape) = e.eval := by
  refine he.evalIn_congr fun d hd => ?_
  cases hbound : binding source shape d with
  | none =>
    unfold Expr.sizeOfDim
    rw [hbound]
  | some n =>
    obtain ⟨d', hmem, hsym⟩ := mem_zip_of_binding hbound
    obtain rfl := (hsource _ (List.of_mem_zip hmem).1).dim_eq hd hsym
    have hvalue : Expr.sizeOfDim (fun _ => none) d' = .ok n := Slots.eval_of_mem_zip hfits hmem
    rw [hvalue]
    unfold Expr.sizeOfDim
    rw [hbound]
    rfl

/-- On a source that fits, an expression stands for its value. -/
lemma eval_of_standsFor (hsource : source.Over r) (hfits : source.fits shape = true) {e : Expr}
    (he : e.Over r) {n : Size} (h : StandsFor source shape e n) : e.eval = .ok n := by
  unfold StandsFor at h
  split at h
  · rename_i position hposition
    obtain ⟨e', hslot, hsame⟩ := Slots.getElem?_of_positionOf? hposition
    obtain rfl := (hsource.of_getElem? hslot).eq_of_same he hsame
    exact Slots.eval_of_getElem? hfits hslot h
  · rw [← evalIn_binding hsource hfits he]
    exact h

/-! ## Targets -/

/-- The sizes of a view, with the one to be inferred filled in, fit its target. -/
lemma fits_of_hasSize (hsource : source.Over r) (htarget : target.Over r)
    (hfits : source.fits shape = true) {sizes out : List Size}
    (hsizes : List.Forall₂ (HasSize source shape) target sizes)
    (hout : List.Forall₂ (fun s m => s = -1 ∨ m = s) sizes out) : target.fits out = true := by
  refine Slots.fits_of_forall₂ (forall₂_comp hsizes hout) ?_
  rintro e m hmem ⟨n, hsize, hm⟩
  obtain ⟨hstands, hn⟩ := hasSize_expr.1 hsize
  -- an expression is never left to be inferred, so its size is not filled in
  obtain rfl := hm.resolve_left (Size.ne_neg_one_of_nonneg hn)
  exact eval_of_standsFor hsource hfits (htarget e hmem) hstands

/-- The sizes at the origins of a permutation fit its target. -/
lemma fits_of_comesFrom (hsource : source.Over r) (htarget : target.Over r)
    (hfits : source.fits shape = true) {axes : List Nat} {out : List Size}
    (haxes : List.Forall₂ (ComesFrom source) target axes)
    (hout : List.Forall₂ (fun axis n => shape[axis]? = some n) axes out) :
    target.fits out = true := by
  refine Slots.fits_of_forall₂ (forall₂_comp haxes hout) ?_
  rintro e n hmem ⟨axis, hcomes, hn⟩
  obtain ⟨s, hs, hpairs⟩ := comesFrom_expr.1 hcomes
  obtain ⟨e', rfl, hsame⟩ := Slot.pairs_expr_iff.1 hpairs
  obtain rfl := (hsource.of_getElem? hs).eq_of_same (htarget e hmem) hsame
  exact Slots.eval_of_getElem? hfits hs hn

end Resolve

end ShapeAlgebra
