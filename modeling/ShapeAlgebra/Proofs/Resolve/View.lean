import ShapeAlgebra.Proofs.Resolve.Source
import ShapeAlgebra.Proofs.Slot.Position
import ShapeAlgebra.Resolve.View

/-!
# The contract of a view

A view that is resolved gives every slot of its target a size, and `HasSize` says which: the slot
to be inferred `-1`, an anonymous slot the size of the anonymous axis of its ordinal, and an
expression the size that it stands for on the source, which has no sign.  At most one slot is to be
inferred, and then the elements spread evenly over the sized axes.  There is one trap, the remainder
of the least size by `-1`, and without negative sizes in the shape there is none.
-/

namespace ShapeAlgebra.Resolve

variable {spec : String} {source target : Slots} {shape : List Size} {trapped : Prop}

/-- The size that `e` stands for on the source: that of the first axis with the same expression,
or else its value. -/
def StandsFor (source : Slots) (shape : List Size) (e : Expr) (n : Size) : Prop :=
  match Slots.positionOf? source e with
  | some position => shape[position]? = some n
  | none => e.evalIn (binding source shape) = .ok n

/-- The size that a view gives to a slot of the target. -/
def HasSize (source : Slots) (shape : List Size) : Slot → Size → Prop
  | .expr e, n => StandsFor source shape e n ∧ 0 ≤ n
  | .anonymous ordinal, n =>
    ∃ position, Slots.anonymousPosition? source ordinal = some position ∧
      shape[position]? = some n
  | .inferred, n => n = -1

/-- An expression has the size that it stands for, if that is not negative. -/
lemma hasSize_expr {e : Expr} {n : Size} :
    HasSize source shape (.expr e) n ↔ StandsFor source shape e n ∧ 0 ≤ n := Iff.rfl

/-- An anonymous slot has the size of the anonymous axis with its ordinal. -/
lemma hasSize_anonymous {ordinal : Nat} {n : Size} :
    HasSize source shape (.anonymous ordinal) n ↔
      ∃ position, Slots.anonymousPosition? source ordinal = some position ∧
        shape[position]? = some n := Iff.rfl

/-- A slot to be inferred is marked. -/
lemma hasSize_inferred {n : Size} : HasSize source shape .inferred n ↔ n = -1 := Iff.rfl

/-- The size of an expression is found, or there is a refusal. -/
lemma meets_exprSize (hlen : source.length = shape.length) (e : Expr) :
    Meets (exprSize spec source shape e) (StandsFor source shape e)
      (ReportedFor spec trapped) := by
  unfold exprSize StandsFor
  cases h : Slots.positionOf? source e with
  | some position =>
    refine meets_elementAt ?_
    rw [← hlen]
    exact Slots.lt_length_of_positionOf? h
  | none => exact meets_evalOn

/-- The size of a slot is found, or there is a refusal. -/
lemma meets_slotSize (hlen : source.length = shape.length) (slot : Slot) :
    Meets (slotSize spec source target shape slot) (HasSize source shape slot)
      (ReportedFor spec trapped) := by
  cases slot with
  | anonymous ordinal =>
    simp only [slotSize]
    split
    · rename_i position hposition
      have hlt : position < shape.length := by
        rw [← hlen]
        exact Slots.lt_length_of_anonymousPosition? hposition
      refine (meets_elementAt hlt).imp (fun n hn => ?_) fun _ hbad => hbad
      exact hasSize_anonymous.2 ⟨position, hposition, hn⟩
    · rfl
  | inferred => rfl
  | expr e =>
    refine (meets_exprSize hlen e).bind fun n hn => ?_
    split
    · rfl
    · rename_i hneg
      exact ⟨hn, Int64.not_lt.1 hneg⟩

/-- A view comes to the remainder of the least size by `-1`: the source describes the shape, every
slot of the target has its size and exactly one of them is to be inferred, the number of elements is
the least size, and the sized axes of the target count for `-1`. -/
structure Overflows (source target : Slots) (shape : List Size) : Prop where
  describes : Describes source shape
  one_inferred : target.countP Slot.isInferred = 1
  exists_sizes : ∃ sizes, List.Forall₂ (HasSize source shape) target sizes ∧
    Size.product? shape = some Int64.minValue ∧
    Size.product? (sizedAxes target sizes) = some (-1)

/-- A shape without negative sizes does not have the least size for its number of elements. -/
lemma Overflows.not_nonneg (h : Overflows source target shape) : ¬∀ n ∈ shape, 0 ≤ n := by
  obtain ⟨sizes, _, htotal, _⟩ := h.exists_sizes
  intro hshape
  have hnonneg : 0 ≤ Int64.minValue := Size.nonneg_of_product?_eq_some htotal hshape
  exact absurd hnonneg (by decide)

/-- The elements of `shape` can be spread evenly over the sized axes of the target, and can be
counted on both sides. -/
structure Spreads (target : Slots) (shape sizes : List Size) : Prop where
  shape_inRange : Size.StaysInRange shape
  sized_inRange : Size.StaysInRange (sizedAxes target sizes)
  ne_zero : Size.exactProduct (sizedAxes target sizes) ≠ 0
  dvd : Size.exactProduct (sizedAxes target sizes) ∣ Size.exactProduct shape

/-- The remainder by the known sizes traps only for the least size and the divisor `-1`. -/
lemma meets_checkDivisor {sizes : List Size}
    (htrap : Size.product? shape = some Int64.minValue →
      Size.product? (sizedAxes target sizes) = some (-1) → trapped) :
    Meets (checkDivisor spec target shape sizes) (fun _ => Spreads target shape sizes)
      (ReportedFor spec trapped) := by
  refine meets_countElements.bind fun total htotal => ?_
  refine meets_countElements.bind fun known hknown => ?_
  split
  · rfl
  · rename_i hne
    -- the remainder traps for a divisor zero, which is refused, and for the least size by -1
    have hleast : known = 0 ∨ known = -1 ∧ total = Int64.minValue → trapped := by
      rintro (hzero | ⟨rfl, rfl⟩)
      · exact absurd hzero hne
      · exact htrap htotal hknown
    refine (Size.meets_remainder hleast).bind fun rest hrest => ?_
    split
    · rename_i hzero
      obtain ⟨hshape, htotal⟩ := Size.product?_eq_some_iff.1 htotal
      obtain ⟨hsized, hknown⟩ := Size.product?_eq_some_iff.1 hknown
      rw [Size.eq_zero_iff, hrest.2] at hzero
      rw [Size.eq_zero_iff] at hne
      exact ⟨hshape, hsized, hknown ▸ hne, hknown ▸ htotal ▸ Int.dvd_of_tmod_eq_zero hzero⟩
    · rfl

/-- The check of the slots to be inferred lets through one at most, and only if the elements can be
spread over the others. -/
lemma meets_checkInferred {sizes : List Size}
    (htrap : target.countP Slot.isInferred = 1 → Size.product? shape = some Int64.minValue →
      Size.product? (sizedAxes target sizes) = some (-1) → trapped) :
    Meets (checkInferred spec target shape sizes)
      (fun _ => target.countP Slot.isInferred ≤ 1 ∧
        (target.countP Slot.isInferred = 1 → Spreads target shape sizes))
      (ReportedFor spec trapped) := by
  unfold checkInferred
  split
  · rename_i hnone
    exact ⟨hnone.le.trans (Nat.zero_le 1), fun hone => absurd (hnone.symm.trans hone) (by simp)⟩
  · rename_i hone
    exact (meets_checkDivisor (htrap hone)).imp (fun _ hspreads => ⟨hone.le, fun _ => hspreads⟩)
      fun _ hbad => hbad
  · rfl

/-- What a view makes of a shape, and where it may trap. -/
theorem meets_view_overflows :
    Meets (view spec source target shape)
      (fun sizes => Describes source shape ∧
        List.Forall₂ (HasSize source shape) target sizes ∧
        target.countP Slot.isInferred ≤ 1)
      (ReportedFor spec (Overflows source target shape)) := by
  refine meets_checkSource.bind fun _ hsource => ?_
  refine (Meets.mapM fun slot _ => meets_slotSize hsource.length_eq slot).bind
    fun sizes hsizes => ?_
  have htrap (hone : target.countP Slot.isInferred = 1)
      (htotal : Size.product? shape = some Int64.minValue)
      (hknown : Size.product? (sizedAxes target sizes) = some (-1)) :
      Overflows source target shape := ⟨hsource, hone, sizes, hsizes, htotal, hknown⟩
  refine (meets_checkInferred htrap).bind fun _ hinferred => ?_
  exact ⟨hsource, hsizes, hinferred.1⟩

/-- What a view makes of a shape, which traps only if a size is negative. -/
theorem meets_view :
    Meets (view spec source target shape)
      (fun sizes => Describes source shape ∧
        List.Forall₂ (HasSize source shape) target sizes ∧
        target.countP Slot.isInferred ≤ 1)
      (ReportedFor spec ¬∀ n ∈ shape, 0 ≤ n) :=
  meets_view_overflows.imp (fun _ h => h) fun _ h =>
    h.imp (fun _ hspec => hspec) Overflows.not_nonneg

/-- Where a view has an axis to infer, the sized axes go evenly into the number of elements. -/
lemma spreads_of_view {sizes : List Size} (h : view spec source target shape = .ok sizes)
    (hone : target.countP Slot.isInferred = 1) : Spreads target shape sizes := by
  obtain ⟨_, _, hrest⟩ := bind_eq_ok_iff.1 h
  obtain ⟨sizes', _, hrest⟩ := bind_eq_ok_iff.1 hrest
  obtain ⟨_, hinferred, hsizes⟩ := bind_eq_ok_iff.1 hrest
  obtain rfl := Except.ok.inj hsizes
  have hmeets : Meets (checkInferred spec target shape sizes') _ (ReportedFor spec True) :=
    meets_checkInferred fun _ _ _ => trivial
  exact (hmeets.post_of_eq_ok hinferred).2 hone

end ShapeAlgebra.Resolve
