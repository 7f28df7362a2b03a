import ShapeAlgebra.Proofs.Warp.Invariant
import ShapeAlgebra.Proofs.Warp.Reshape

/-!
# What is resolved is accepted

A view is checked twice, by the resolver against the slots of its target and by the host of shapes
against the sizes alone.  On a shape without negative sizes a slot that is to be inferred is the
only one with the size `-1`, so that both leave out the same size, and the condition of the resolver
is that of the host.  An alignment is not checked by its resolver at all.  It only pads the shape
with ones, and these change no product, so that the host counts the sizes if it can count the shape.
-/

namespace ShapeAlgebra.Warp

variable {spec : String} {source target : Slots} {shape sizes : List Size}

/-- The sized axes of a target are the sizes other than `-1`. -/
lemma sizedAxes_of_hasSize (hshape : ∀ n ∈ shape, 0 ≤ n)
    (h : List.Forall₂ (Resolve.HasSize source shape) target sizes) :
    Resolve.sizedAxes target sizes = ShapeHost.known sizes := by
  induction h with
  | nil => rfl
  | @cons slot n target sizes hslot _ ih =>
    unfold Resolve.sizedAxes ShapeHost.known at ih ⊢
    have hmark := eq_neg_one_iff_of_hasSize hshape hslot
    by_cases hn : n = -1
    · rw [List.zip_cons_cons, List.filter_cons_of_neg (by simp [hmark.1 hn]), ih,
        List.filter_cons_of_neg (by simp [hn])]
    · rw [List.zip_cons_cons, List.filter_cons_of_pos (by simpa using mt hmark.2 hn),
        List.map_cons, ih, List.filter_cons_of_pos (by simp [hn])]

/-- The size of a slot is `-1` or has no sign. -/
lemma nonneg_of_hasSize (hshape : ∀ n ∈ shape, 0 ≤ n) {slot : Slot} {n : Size}
    (h : Resolve.HasSize source shape slot n) (hn : n ≠ -1) : 0 ≤ n := by
  cases slot with
  | expr e => exact (Resolve.hasSize_expr.1 h).2
  | anonymous ordinal =>
    obtain ⟨position, _, hget⟩ := Resolve.hasSize_anonymous.1 h
    exact hshape n (List.mem_of_getElem? hget)
  | inferred => exact absurd (Resolve.hasSize_inferred.1 h) hn

/-- The sizes of a view with an axis to infer can be asked of the host. -/
lemma reshapes_of_spreads (hshape : ∀ n ∈ shape, 0 ≤ n)
    (hsizes : List.Forall₂ (Resolve.HasSize source shape) target sizes)
    (hone : target.countP Slot.isInferred = 1) (hspreads : Resolve.Spreads target shape sizes) :
    ShapeHost.Reshapes shape sizes := by
  have hcount : sizes.count (-1) = 1 := (count_neg_one_of_hasSize hshape hsizes).trans hone
  have hknown : Resolve.sizedAxes target sizes = ShapeHost.known sizes :=
    sizedAxes_of_hasSize hshape hsizes
  have hnonneg : ∀ n ∈ ShapeHost.known sizes, 0 ≤ n := by
    intro n hn
    obtain ⟨hmem, hne⟩ := List.mem_filter.1 hn
    obtain ⟨slot, _, hslot⟩ := exists_of_mem_right hsizes hmem
    exact nonneg_of_hasSize hshape hslot (by simpa using hne)
  obtain ⟨hrange, hsized, hzero, hdvd⟩ := hspreads
  rw [hknown] at hsized hzero hdvd
  have hpos : 0 < Size.exactProduct (ShapeHost.known sizes) :=
    lt_of_le_of_ne (Size.exactProduct_nonneg hnonneg) (Ne.symm hzero)
  exact ⟨hrange, hcount.le, hnonneg, hsized,
    .inr ⟨hcount, hpos, hdvd, Size.exactProduct_nonneg hshape⟩⟩

/-- The size that is left out stands where the slot to be inferred does. -/
lemma getElem?_of_hasSize (hshape : ∀ n ∈ shape, 0 ≤ n) {before after : List Size}
    (h : List.Forall₂ (Resolve.HasSize source shape) target (before ++ -1 :: after)) :
    target[before.length]? = some .inferred := by
  have hlt : before.length < target.length := by
    rw [h.length_eq, List.length_append, List.length_cons]
    omega
  have hslot := List.getElem?_eq_getElem hlt
  have hmark : (before ++ -1 :: after)[before.length]? = some (-1) := by simp
  have hinferred := (eq_neg_one_iff_of_hasSize hshape (rel_of_getElem? h hslot hmark)).1 rfl
  rw [hslot]
  generalize target[before.length] = slot at hinferred
  cases slot with
  | expr _ => cases hinferred
  | anonymous _ => cases hinferred
  | inferred => rfl

/-- The host takes an alignment as it is. -/
lemma view_of_padded (hshape : ∀ n ∈ shape, 0 ≤ n) (hrange : Size.StaysInRange shape)
    (h : Resolve.Padded shape sizes) : ShapeHost.view shape sizes = .ok sizes := by
  obtain ⟨total, htotal⟩ := Size.exists_product?_iff.2 hrange
  have hsame : Size.product? sizes = some total := (h.productFrom?_eq 1).trans htotal
  obtain ⟨hsizes, htotal'⟩ := Size.product?_eq_some_iff.1 hsame
  have hnonneg : ∀ n ∈ sizes, 0 ≤ n := by
    intro n hn
    rcases h.mem n hn with rfl | hmem
    · decide
    · exact hshape n hmem
  exact ShapeHost.view_eq_self hnonneg hrange hsizes
    (htotal'.symm.trans (Size.toInt_of_product?_eq_some htotal))

/-- On a shape without negative sizes the host accepts what is resolved.  The sizes of a view with
an axis to infer come back with the exact quotient of the number of elements by the product of the
others in the place of that axis.  The sizes of an alignment come back as they are, if the elements
of the shape can be counted. -/
theorem host_accepts_resolved (spec : String) (source target : Slots)
    (hshape : ∀ n ∈ shape, 0 ≤ n) :
    (∀ sizes, Resolve.view spec source target shape = .ok sizes → .inferred ∈ target →
      ∃ before after n, sizes = before ++ -1 :: after ∧ -1 ∉ before ++ after ∧
        target[before.length]? = some .inferred ∧
        ShapeHost.view shape sizes = .ok (before ++ n :: after) ∧
        0 < Size.exactProduct (before ++ after) ∧
        n.toInt * Size.exactProduct (before ++ after) = Size.exactProduct shape) ∧
    ∀ sizes, Resolve.align spec source target shape = .ok sizes → Size.StaysInRange shape →
      ShapeHost.view shape sizes = .ok sizes := by
  refine ⟨fun sizes hview hmem => ?_, fun sizes halign hrange => ?_⟩
  · obtain ⟨-, hsizes, hle⟩ := Resolve.meets_view.post_of_eq_ok hview
    have hone : target.countP Slot.isInferred = 1 :=
      hle.antisymm (List.countP_pos_iff.2 ⟨.inferred, hmem, rfl⟩)
    have hreshapes := reshapes_of_spreads hshape hsizes hone (Resolve.spreads_of_view hview hone)
    have hcount : sizes.count (-1) = 1 := (count_neg_one_of_hasSize hshape hsizes).trans hone
    obtain ⟨before, after, n, rfl, hnot, hpos, hquotient, haccepted⟩ :=
      hreshapes.exists_insert hcount
    exact ⟨before, after, n, rfl, hnot, getElem?_of_hasSize hshape hsizes, haccepted, hpos,
      hquotient⟩
  · exact view_of_padded hshape hrange (Resolve.meets_align_padded.post_of_eq_ok halign)

/-- An axis without elements is viewed as four axes' worth of none, and kept with a new axis behind
it. -/
theorem host_accepts_resolved_empty :
    let source : Slots := [.anonymous 0, .anonymous 1]
    let viewed : Slots := [.expr (.lit 4), .inferred]
    let aligned : Slots := [.anonymous 0, .expr (.lit 7), .anonymous 1]
    Resolve.view "__ -> 4,-1" source viewed [0, 5] = .ok [4, -1] ∧
      (∃ before after n, before ++ n :: after = [4, 0] ∧
        n.toInt * Size.exactProduct (before ++ after) = Size.exactProduct [0, 5]) ∧
      Resolve.align "__ -> _7_" source aligned [0, 5] = .ok [0, 1, 5] ∧
      ShapeHost.view [0, 5] [0, 1, 5] = .ok [0, 1, 5] := by
  intro source viewed aligned
  have hview : Resolve.view "__ -> 4,-1" source viewed [0, 5] = .ok [4, -1] := by rfl
  have halign : Resolve.align "__ -> _7_" source aligned [0, 5] = .ok [0, 1, 5] := by rfl
  have hrange : Size.StaysInRange [0, 5] := Size.exists_product?_iff.1 ⟨0, by decide⟩
  have hhost : ShapeHost.view [0, 5] [4, -1] = .ok [4, 0] := by rfl
  have hshape : ∀ n ∈ ([0, 5] : List Size), 0 ≤ n := by
    intro n hn
    rcases List.mem_pair.1 hn with rfl | rfl <;> decide
  obtain ⟨hviews, -⟩ := host_accepts_resolved "__ -> 4,-1" source viewed hshape
  obtain ⟨-, haligns⟩ := host_accepts_resolved "__ -> _7_" source aligned hshape
  obtain ⟨before, after, n, -, -, -, haccepted, -, hquotient⟩ := hviews _ hview (by decide)
  exact ⟨hview, ⟨before, after, n, Except.ok.inj (haccepted.symm.trans hhost), hquotient⟩, halign,
    haligns _ halign hrange⟩

end ShapeAlgebra.Warp
