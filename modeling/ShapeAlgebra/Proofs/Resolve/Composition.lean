import ShapeAlgebra.Proofs.Resolve.Arrangement

/-!
# Composing and inverting permutations

Repeated slots can be matched in many ways, so that it is not for granted that two permutations one
after the other are the permutation from the first order to the last.  They are because a
permutation matches counterparts: the laws of composition here are those of being counterparts, read
off the lists of axes.
-/

namespace ShapeAlgebra.Resolve.Arranges

variable {source middle target : Slots} {axes axes' : List Nat}

/-- Nothing moves from an order to itself. -/
lemma refl (slots : Slots) : Arranges slots slots (List.range slots.length) := by
  refine ⟨rfl, List.length_range, fun index axis haxis => ?_⟩
  obtain ⟨hlt, hget⟩ := List.getElem?_eq_some_iff.1 haxis
  rw [List.length_range] at hlt
  rw [List.getElem_range] at hget
  rw [← hget]
  exact Counterparts.refl hlt

/-- Behind one another two permutations are the one that reads the axes of the first at the axes of
the second. -/
lemma trans (h : Arranges source middle axes) (h' : Arranges middle target axes') :
    ∃ composed, Arranges source target composed ∧
      List.Forall₂ (fun axis origin => axes[axis]? = some origin) axes' composed := by
  have hperm : axes'.Perm (List.range axes.length) := h.length_axes ▸ h'.perm_range
  obtain ⟨composed, hcomposed⟩ := exists_forall₂_getElem? hperm
  have hlen : composed.length = target.length := hcomposed.length_eq.symm.trans h'.length_axes
  refine ⟨composed, ⟨h.length_source.trans h'.length_source, hlen, ?_⟩, hcomposed⟩
  intro index origin horigin
  have hlt : index < axes'.length := by
    rw [hcomposed.length_eq]
    exact (List.getElem?_eq_some_iff.1 horigin).1
  have haxis := List.getElem?_eq_getElem hlt
  have hfirst := rel_of_getElem? hcomposed haxis horigin
  exact (h.counterparts _ origin hfirst).trans (h'.counterparts index _ haxis)

/-- Back from the target every axis goes where it came from. -/
lemma symm (h : Arranges source target axes) :
    ∃ inverse, Arranges target source inverse ∧
      ∀ index axis : Nat, axes[index]? = some axis ↔ inverse[axis]? = some index := by
  have hback : ∀ axis ∈ List.range source.length, ∃ index,
      Counterparts target index source axis := by
    intro axis haxis
    obtain ⟨index, hindex⟩ := List.mem_iff_getElem?.1 (h.perm_range.mem_iff.2 haxis)
    exact ⟨index, (h.counterparts index axis hindex).symm⟩
  obtain ⟨inverse, hinverse⟩ := exists_forall₂ hback
  have hlen : inverse.length = source.length := by
    rw [← hinverse.length_eq, List.length_range]
  have harranges : Arranges target source inverse := by
    refine ⟨h.length_source.symm, hlen, fun axis index hindex => ?_⟩
    have hlt : axis < source.length := hlen ▸ (List.getElem?_eq_some_iff.1 hindex).1
    have hcounter := rel_of_getElem? hinverse (List.getElem?_range hlt) hindex
    exact hcounter
  refine ⟨inverse, harranges, fun index axis => ?_⟩
  rw [h.getElem?_iff, harranges.getElem?_iff]
  exact ⟨Counterparts.symm, Counterparts.symm⟩

end ShapeAlgebra.Resolve.Arranges
