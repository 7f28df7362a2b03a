import ShapeAlgebra.Proofs.Resolve.Source
import ShapeAlgebra.Proofs.Slot.Position
import ShapeAlgebra.Proofs.Slot.Stripped
import ShapeAlgebra.Resolve.Align
import ShapeAlgebra.Resolve.Expand
import ShapeAlgebra.Resolve.Permute
import ShapeAlgebra.Resolve.View

/-!
# Resolving without declared sizes

Permutations and alignments go by the pairing of slots alone.  Views and expansions evaluate
expressions, and then a declared size fills in for every dimension that stands alone nowhere in the
source.  When the source settles what they evaluate, all resolvers come to the same sizes, factors
and errors for stripped slots as for the slots themselves.
-/

namespace ShapeAlgebra

variable {spec : String} {source target : Slots} {shape : List Size}

/-! ## Sources that settle sizes -/

namespace Slots

/-- Whether every dimension of an expression stands alone in one of the slots. -/
def binds (slots : Slots) (e : Expr) : Bool :=
  e.freeVars.all fun d => slots.any (·.pairs (.expr (.var d)))

/-- Whether the size of a slot does not depend on declared sizes, if it is copied from a slot of
`alike` with the same expression and else evaluated on `source`. -/
def settles (source alike : Slots) : Slot → Bool
  | .expr e => alike.any (·.pairs (.expr e)) || source.binds e
  | .anonymous _ | .inferred => true

@[simp]
lemma binds_stripped (slots : Slots) (e : Expr) :
    slots.stripped.binds e.stripped = slots.binds e := by
  simp only [binds, Expr.freeVars_stripped, List.all_map, Function.comp_def]
  congr 1
  funext d
  exact any_pairs_stripped slots (.expr (.var d))

@[simp]
lemma settles_stripped (source alike : Slots) (slot : Slot) :
    source.stripped.settles alike.stripped slot.stripped = source.settles alike slot := by
  cases slot with
  | expr e =>
    simp only [Slot.stripped_expr, settles, binds_stripped]
    rw [← Slot.stripped_expr, any_pairs_stripped]
  | anonymous _ => rfl
  | inferred => rfl

end Slots

namespace Resolve

/-! ## Parts of a resolution -/

@[simp]
lemma checkSource_stripped :
    checkSource spec source.stripped shape = checkSource spec source shape := by
  unfold checkSource
  rw [Slots.length_stripped, Slots.any_isInferred_stripped]

@[simp]
lemma placeholderError_stripped :
    placeholderError spec source.stripped target.stripped =
      placeholderError spec source target := by
  simp [placeholderError]

@[simp]
lemma binding_stripped : binding source.stripped shape = binding source shape := by
  have hsizes : boundSizes source.stripped shape = boundSizes source shape := by
    unfold boundSizes Slots.stripped
    rw [List.zip_map_left, List.filterMap_map]
    congr 1
    funext ⟨slot, n⟩
    cases slot with
    | expr e => cases e <;> rfl
    | anonymous _ => rfl
    | inferred => rfl
  unfold binding
  rw [hsizes]

/-- A dimension that stands alone in a slot is bound to a size. -/
lemma isSome_binding (hlen : source.length = shape.length) {d : Dim}
    (h : source.any (·.pairs (.expr (.var d))) = true) :
    (binding source shape d).isSome = true := by
  obtain ⟨slot, hslot, hpairs⟩ := List.any_eq_true.1 h
  obtain ⟨position, hposition⟩ := Slots.exists_positionOf? hslot hpairs
  have hlt : position < shape.length := hlen ▸ Slots.lt_length_of_positionOf? hposition
  rw [binding_eq_bind_positionOf?, hposition, Option.bind_some, List.getElem?_eq_getElem hlt]
  rfl

/-- An expression whose dimensions are bound is evaluated without declared sizes. -/
lemma evalOn_stripped (hlen : source.length = shape.length) {e : Expr}
    (h : source.binds e = true) :
    evalOn spec source.stripped shape e.stripped = evalOn spec source shape e := by
  have hbound : ∀ d ∈ e.freeVars, ((boundSizes source shape).lookup d.symbol).isSome = true :=
    fun d hd => isSome_binding hlen (List.all_eq_true.1 h d hd)
  have heval : e.stripped.evalIn (binding source shape) = e.evalIn (binding source shape) :=
    Expr.evalIn_stripped (b := fun symbol => (boundSizes source shape).lookup symbol) hbound
  unfold evalOn
  rw [binding_stripped, heval]

/-! ## Views -/

/-- The size of an expression that is settled does not depend on declared sizes. -/
lemma exprSize_stripped (hlen : source.length = shape.length) {e : Expr}
    (h : source.settles source (.expr e) = true) :
    exprSize spec source.stripped shape e.stripped = exprSize spec source shape e := by
  unfold exprSize
  rw [Slots.positionOf?_stripped]
  cases hposition : source.positionOf? e with
  | some position => rfl
  | none =>
    have hnone : source.any (·.pairs (.expr e)) = false := by
      refine List.any_eq_false.2 fun slot hslot hpairs => ?_
      obtain ⟨position, hfound⟩ := Slots.exists_positionOf? hslot hpairs
      rw [hposition] at hfound
      cases hfound
    refine evalOn_stripped hlen ?_
    simpa [Slots.settles, hnone] using h

/-- The size of a slot that is settled does not depend on declared sizes. -/
lemma slotSize_stripped (hlen : source.length = shape.length) {slot : Slot}
    (h : source.settles source slot = true) :
    slotSize spec source.stripped target.stripped shape slot.stripped =
      slotSize spec source target shape slot := by
  cases slot with
  | expr e =>
    simp only [Slot.stripped_expr, slotSize, exprSize_stripped hlen h, Expr.symbolic_stripped]
  | anonymous ordinal =>
    simp only [Slot.stripped_anonymous, slotSize, Slots.anonymousPosition?_stripped,
      placeholderError_stripped]
  | inferred => rfl

/-- The sizes of slots that are settled do not depend on declared sizes. -/
lemma mapM_slotSize_stripped (hlen : source.length = shape.length) {slots : Slots}
    (h : slots.all (source.settles source) = true) :
    slots.stripped.mapM (slotSize spec source.stripped target.stripped shape) =
      slots.mapM (slotSize spec source target shape) := by
  induction slots with
  | nil => rfl
  | cons slot slots ih =>
    rw [List.all_cons, Bool.and_eq_true] at h
    rw [Slots.stripped_cons, List.mapM_cons, List.mapM_cons, slotSize_stripped hlen h.1, ih h.2]

/-- Whether a size can be inferred does not depend on declared sizes. -/
lemma checkInferred_stripped {sizes : List Size} :
    checkInferred spec target.stripped shape sizes = checkInferred spec target shape sizes := by
  have hsized : sizedAxes target.stripped sizes = sizedAxes target sizes := by
    simp [sizedAxes, Slots.stripped, List.zip_map_left, List.filter_map, Function.comp_def]
  have hcount : target.stripped.countP Slot.isInferred = target.countP Slot.isInferred := by
    simp [Slots.stripped, List.countP_map, Function.comp_def]
  unfold checkInferred checkDivisor
  rw [hsized, hcount]

/-- A view whose sizes are settled by its source. -/
lemma view_stripped (h : target.all (source.settles source) = true) :
    view spec source.stripped target.stripped shape = view spec source target shape := by
  unfold view
  rw [checkSource_stripped]
  refine checkSource_bind_congr fun hsource => ?_
  rw [mapM_slotSize_stripped hsource.length_eq h]
  simp only [checkInferred_stripped]

/-! ## Permutations -/

/-- The origin of a slot does not depend on declared sizes. -/
lemma origin?_stripped (taken : List Nat) (slot : Slot) :
    origin? source.stripped taken slot.stripped = origin? source taken slot := by
  have hfree : firstFree? source.stripped taken slot.stripped = firstFree? source taken slot := by
    simp [firstFree?, Slots.stripped, List.zipIdx_map, List.find?_map, Function.comp_def]
  cases slot with
  | expr e => exact hfree
  | anonymous ordinal => exact Slots.anonymousPosition?_stripped source ordinal
  | inferred => exact hfree

/-- The origins of slots do not depend on declared sizes. -/
lemma origins_stripped (taken : List Nat) :
    origins spec source.stripped taken target.stripped = origins spec source taken target := by
  induction target generalizing taken with
  | nil => rfl
  | cons slot target ih =>
    simp only [Slots.stripped_cons, origins, origin?_stripped, ih, Slot.text_stripped]

/-- A permutation, which has no use for sizes. -/
lemma permute_stripped :
    permute spec source.stripped target.stripped = permute spec source target := by
  simp only [permute, Slots.anonymousCount_stripped, Slots.length_stripped, Slots.text_stripped,
    placeholderError_stripped, origins_stripped]

/-! ## Expansions -/

/-- The factor of an axis that is settled does not depend on declared sizes. -/
lemma slotGrowth_stripped (hlen : source.length = shape.length) {before after : Slot}
    (h : source.settles [before] after = true) (n : Option Size) :
    slotGrowth spec source.stripped shape before.stripped after.stripped n =
      slotGrowth spec source shape before after n := by
  cases after with
  | expr e =>
    simp only [Slot.stripped_expr, slotGrowth, Slot.text_stripped]
    rw [← Slot.stripped_expr, Slot.pairs_stripped]
    split
    · rfl
    · rename_i hdiffers
      rw [evalOn_stripped hlen]
      simpa [Slots.settles, hdiffers] using h
  | anonymous _ => rfl
  | inferred => rfl

/-- The factors of axes that are settled do not depend on declared sizes. -/
lemma slotGrowths_stripped (hlen : source.length = shape.length) {befores afters : Slots}
    (h : (befores.zip afters).all (fun p => source.settles [p.1] p.2) = true)
    (sizes : List Size) :
    slotGrowths spec source.stripped shape befores.stripped afters.stripped sizes =
      slotGrowths spec source shape befores afters sizes := by
  induction befores generalizing afters sizes with
  | nil => rfl
  | cons before befores ih =>
    cases afters with
    | nil => rfl
    | cons after afters =>
      rw [List.zip_cons_cons, List.all_cons, Bool.and_eq_true] at h
      simp only [Slots.stripped_cons, slotGrowths, slotGrowth_stripped hlen h.1, ih h.2]

/-- An expansion whose new sizes are settled by its source. -/
lemma expandPositional_stripped
    (h : (source.zip target).all (fun p => source.settles [p.1] p.2) = true) :
    expandPositional spec source.stripped target.stripped shape =
      expandPositional spec source target shape := by
  unfold expandPositional
  rw [checkSource_stripped]
  refine checkSource_bind_congr fun hsource => ?_
  simp only [Slots.length_stripped, slotGrowths_stripped hsource.length_eq h]

/-! ## Alignments -/

/-- Axes are placed without regard to declared sizes. -/
lemma placeAxes_stripped :
    placeAxes source.stripped shape target.stripped =
      (placeAxes source shape target).map fun p => (p.1, p.2.stripped) := by
  induction target generalizing source shape with
  | nil => rfl
  | cons slot target ih =>
    cases source with
    | nil =>
      simp only [Slots.stripped_cons, Slots.stripped_nil, placeAxes, map_bind_eq]
      rw [← Slots.stripped_nil, ih, bind_map_eq]
      rfl
    | cons axis axes =>
      simp only [Slots.stripped_cons, placeAxes, Slot.pairs_stripped]
      split
      · cases shape with
        | nil => rfl
        | cons n shape =>
          simp only [ih, bind_map_eq, map_bind_eq]
          rfl
      · rw [← Slots.stripped_cons]
        simp only [ih, bind_map_eq, map_bind_eq]
        rfl

/-- An alignment, which evaluates nothing. -/
lemma align_stripped :
    align spec source.stripped target.stripped shape = align spec source target shape := by
  simp only [align, checkSource_stripped, placeAxes_stripped, bind_map_eq]
  congr 1
  funext _
  congr 1
  funext ⟨sizes, left⟩
  cases left <;> simp

end Resolve

end ShapeAlgebra
