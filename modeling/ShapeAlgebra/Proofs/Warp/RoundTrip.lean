import ShapeAlgebra.Proofs.Resolve.Composition
import ShapeAlgebra.Proofs.Warp.Plan
import ShapeAlgebra.Proofs.Warp.Run
import ShapeAlgebra.Proofs.Warp.ShapeHost

/-!
# There and back

The permutations between orders of the same slots form a groupoid: they compose, there is one that
moves nothing, and every one has an inverse, which is the permutation asked for in the other
direction.  On the host of shapes a permutation of the axes reads the shape at the axes listed.  So
a warp from one stage to another and back gives back the shape it was started on, whatever its
sizes are.
-/

namespace ShapeAlgebra.Warp

variable {verbose : Bool} {source target : Slots} {axes : List Nat} {shape out : List Size}

/-- A step between two orders of the same slots is completed, and reads the shape at the axes
that are listed. -/
lemma exists_outcome_runStep_permute (hnum : target.Numbered)
    (hshape : shape.length = source.length) (h : Resolve.Arranges source target axes) :
    ∃ out, (runStep shapeHost verbose .permute source target shape).outcome = .ok out ∧
      List.Forall₂ (fun axis n => shape[axis]? = some n) axes out := by
  have hperm : axes.Perm (List.range shape.length) := hshape ▸ h.perm_range
  obtain ⟨out, hout⟩ := exists_forall₂_getElem? hperm
  have hresolve : resolve .permute source target shape = .ok (.permute axes) := by
    have hrank : checkRank (stepSpec source target) source shape = .ok () := if_pos hshape.symm
    have hpermute : Resolve.permute (stepSpec source target) source target = .ok axes :=
      (Resolve.permute_eq_ok_iff hnum).2 h
    simp only [resolve, hrank, hpermute]
    rfl
  have hcall : shapeHost.perform shape (.permute axes) = .ok out :=
    ShapeHost.permute_eq_ok_iff.2 ⟨ShapeHost.isPermutation_iff_perm_range.2 hperm, hout⟩
  have hstep : (runStep shapeHost verbose .permute source target shape).outcome =
      (shapeHost.perform shape (.permute axes)).mapError _ :=
    outcome_runStep_of_resolve_eq_ok hresolve
  refine ⟨out, ?_, hout⟩
  rw [hstep, hcall]
  rfl

/-- Read at some axes and then at the inverse of them, a shape is what it was. -/
lemma eq_of_read_back {inverse : List Nat} {between : List Size}
    (hinverse : ∀ index axis : Nat, axes[index]? = some axis ↔ inverse[axis]? = some index)
    (hlen : inverse.length = shape.length)
    (hbetween : List.Forall₂ (fun axis n => shape[axis]? = some n) axes between)
    (hout : List.Forall₂ (fun axis n => between[axis]? = some n) inverse out) : out = shape := by
  refine List.ext_getElem? fun axis => ?_
  by_cases hlt : axis < inverse.length
  · have hindex := List.getElem?_eq_getElem hlt
    have hget := List.getElem?_eq_getElem (hout.length_eq ▸ hlt)
    -- the second reading takes an axis to its index, the first one takes that index back
    have hread := rel_of_getElem? hout hindex hget
    have hread' := rel_of_getElem? hbetween ((hinverse _ axis).2 hindex) hread
    rw [hget, hread']
  · rw [List.getElem?_eq_none (by rw [← hout.length_eq]; exact not_lt.1 hlt),
      List.getElem?_eq_none (by rw [← hlen]; exact not_lt.1 hlt)]

/-- Two permutations, to another order and back, leave a shape as it is. -/
lemma outcome_runSteps_there_and_back (hsource : source.Numbered) (htarget : target.Numbered)
    (h : Resolve.Arranges source target axes) (hshape : shape.length = source.length) :
    (runSteps shapeHost verbose source [(.permute, target), (.permute, source)] shape).outcome =
      .ok shape := by
  obtain ⟨inverse, hback, hinverse⟩ := h.symm
  obtain ⟨between, hfirst, hbetween⟩ := exists_outcome_runStep_permute htarget hshape h
  have hlen : between.length = target.length := hbetween.length_eq.symm.trans h.length_axes
  obtain ⟨out, hsecond, hout⟩ := exists_outcome_runStep_permute hsource hlen hback
  have hsame : out = shape :=
    eq_of_read_back hinverse (hback.length_axes.trans hshape.symm) hbetween hout
  rw [hsame] at hsecond
  rw [runSteps_cons, Run.outcome_andThen, hfirst]
  change (runSteps shapeHost verbose target [(.permute, source)] between).outcome = .ok shape
  rw [runSteps_cons, Run.outcome_andThen, hsecond]
  rfl

/-- Permutations of the slots that were read compose, also where slots are repeated: from `first` by
way of `second` to `third` the axes are those of the first permutation, read at those of the second.
The permutation of an order to itself moves nothing, and the one back is the inverse.  So a warp
there and back gives back any shape that has an axis for each slot. -/
theorem permutations_compose_and_invert {first second third : Slots} (hfirst : first.Written)
    (hsecond : second.Written) (hthird : third.Written) :
    (∀ spec spec' axes axes', Resolve.permute spec first second = .ok axes →
      Resolve.permute spec' second third = .ok axes' →
        ∃ composed, (∀ spec, Resolve.permute spec first third = .ok composed) ∧
          List.Forall₂ (fun axis origin => axes[axis]? = some origin) axes' composed) ∧
    (∀ spec, Resolve.permute spec first first = .ok (List.range first.length)) ∧
    (∀ spec axes, Resolve.permute spec first second = .ok axes →
      (∃ inverse, (∀ spec, Resolve.permute spec second first = .ok inverse) ∧
        ∀ index axis : Nat, axes[index]? = some axis ↔ inverse[axis]? = some index) ∧
      ∀ r chain verbose shape, Spec.readChain r chain = .ok [first, second, first] →
        shape.length = first.length →
          (run r shapeHost chain "pp" verbose shape).outcome = .ok shape) := by
  refine ⟨?_, ?_, ?_⟩
  · intro spec spec' axes axes' h h'
    have harranges := (Resolve.permute_eq_ok_iff hsecond.numbered).1 h
    have harranges' := (Resolve.permute_eq_ok_iff hthird.numbered).1 h'
    obtain ⟨composed, hcomposed, hread⟩ := harranges.trans harranges'
    exact ⟨composed, fun _ => (Resolve.permute_eq_ok_iff hthird.numbered).2 hcomposed, hread⟩
  · exact fun _ => (Resolve.permute_eq_ok_iff hfirst.numbered).2 (.refl first)
  · intro spec axes h
    have harranges := (Resolve.permute_eq_ok_iff hsecond.numbered).1 h
    constructor
    · obtain ⟨inverse, hback, hinverse⟩ := harranges.symm
      exact ⟨inverse, fun _ => (Resolve.permute_eq_ok_iff hfirst.numbered).2 hback, hinverse⟩
    · intro r chain verbose shape hchain hshape
      have hread : Plan.read r chain "pp" =
          .ok ⟨chain, first, [(.permute, second), (.permute, first)]⟩ :=
        Plan.read_eq_ok_iff.2 ⟨rfl, hchain, rfl⟩
      rw [run, hread]
      exact outcome_runSteps_there_and_back hfirst.numbered hsecond.numbered harranges hshape

/-- Two batches and a placeholder: the placeholder is moved to the front and from there between the
batches, and to the front and back. -/
theorem permutations_compose_and_invert_rotated :
    let b : Slot := .expr (.var ⟨⟨"Batch", "b", some 6⟩, 0⟩)
    let first : Slots := [b, b, .anonymous 0]
    let second : Slots := [.anonymous 0, b, b]
    let third : Slots := [b, .anonymous 0, b]
    first.Written ∧ second.Written ∧ third.Written ∧
      Resolve.permute "bb_ -> _bb" first second = .ok [2, 0, 1] ∧
      Resolve.permute "_bb -> b_b" second third = .ok [1, 0, 2] ∧
      Resolve.permute "bb_ -> b_b" first third = .ok [0, 2, 1] ∧
      Resolve.permute "bb_ -> bb_" first first = .ok [0, 1, 2] ∧
      Resolve.permute "_bb -> bb_" second first = .ok [1, 2, 0] ∧
      (run .sample shapeHost "bb_ -> _bb -> bb_" "pp" false [6, 7, -1]).outcome =
        .ok [6, 7, -1] := by
  intro b first second third
  have hfirst : first.Written := ⟨.sample, .size, "bb_", ['b', 'b', '_'], by rfl⟩
  have hsecond : second.Written := ⟨.sample, .size, "_bb", ['_', 'b', 'b'], by rfl⟩
  have hthird : third.Written := ⟨.sample, .size, "b_b", ['b', '_', 'b'], by rfl⟩
  have hthere : Resolve.permute "bb_ -> _bb" first second = .ok [2, 0, 1] := by rfl
  have hon : Resolve.permute "_bb -> b_b" second third = .ok [1, 0, 2] := by rfl
  have hchain : Spec.readChain .sample "bb_ -> _bb -> bb_" = .ok [first, second, first] := by rfl
  obtain ⟨hcompose, hself, hinvert⟩ := permutations_compose_and_invert hfirst hsecond hthird
  obtain ⟨composed, hcomposed, hread⟩ := hcompose _ _ _ _ hthere hon
  obtain ⟨⟨inverse, hback, hinverse⟩, hround⟩ := hinvert _ _ hthere
  have hcomposed_eq : composed = [0, 2, 1] := by
    obtain _ | ⟨⟨⟩, _ | ⟨⟨⟩, _ | ⟨⟨⟩, ⟨⟩⟩⟩⟩ := hread
    rfl
  have hinverse_eq : inverse = [1, 2, 0] := by
    refine List.ext_getElem? fun axis => ?_
    match axis with
    | 0 => exact (hinverse 1 0).1 rfl
    | 1 => exact (hinverse 2 1).1 rfl
    | 2 => exact (hinverse 0 2).1 rfl
    | beyond + 3 =>
      have hnone : inverse[beyond + 3]? = none := by
        refine Option.eq_none_iff_forall_ne_some.2 fun index hindex => ?_
        have haxis := List.mem_of_getElem? ((hinverse index (beyond + 3)).2 hindex)
        simp at haxis
      rw [hnone]
      rfl
  exact ⟨hfirst, hsecond, hthird, hthere, hon, hcomposed_eq ▸ hcomposed _, hself _,
    hinverse_eq ▸ hback _, hround .sample _ false [6, 7, -1] hchain rfl⟩

end ShapeAlgebra.Warp
