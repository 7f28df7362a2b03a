import ShapeAlgebra.Proofs.Warp.ShapeHost

/-!
# The permutations that the host of shapes accepts

The host of shapes goes through a list of axes and keeps a table of those that came up, so that it
finds an axis out of range or a second time at once.  That an axis is missing it never looks for,
and need not: axes without repetition that are as many as the rank are all of them.  What is
accepted are therefore the lists in which every axis stands exactly once.  Two of them, one after
the other, read a shape at the axes that the first list holds at those of the second.
-/

namespace ShapeAlgebra.Warp.ShapeHost

variable {shape : List Size} {axes axes' : List Nat} {rank : Nat}

/-- Every axis of a tensor of rank `rank` stands exactly once in `axes`, and nothing else does. -/
def ListsEachOnce (rank : Nat) (axes : List Nat) : Prop :=
  ∀ axis, axes.count axis = if axis < rank then 1 else 0

/-- To list every axis once is to be a permutation of the axes. -/
lemma listsEachOnce_iff_perm_range : ListsEachOnce rank axes ↔ axes.Perm (List.range rank) := by
  rw [List.perm_iff_count]
  refine forall_congr' fun axis => ?_
  rw [List.nodup_range.count]
  simp only [List.mem_range]

instance : Decidable (ListsEachOnce rank axes) :=
  decidable_of_iff (isPermutation rank axes = true)
    (isPermutation_iff_perm_range.trans listsEachOnce_iff_perm_range.symm)

/-! ## Accepted and refused lists -/

/-- The host permutes by every permutation of the axes. -/
lemma permute_of_perm_range (h : axes.Perm (List.range shape.length)) :
    permute shape axes = .ok (readAt axes shape) := by
  refine permute_eq_ok_iff.2 ⟨isPermutation_iff_perm_range.2 h, forall₂_readAt fun axis haxis => ?_⟩
  exact List.mem_range.1 (h.subset haxis)

/-- The host refuses anything else, and quotes it. -/
lemma permute_of_not_perm_range (h : ¬axes.Perm (List.range shape.length)) :
    permute shape axes = .error (.refusal (.notPermutation axes shape.length)) := by
  rw [← isPermutation_iff_perm_range] at h
  exact if_neg h

/-! ## Permutations one after the other -/

/-- Permutations, one behind the other, are a permutation. -/
lemma perm_range_readAt (h : axes.Perm (List.range rank)) (h' : axes'.Perm (List.range rank)) :
    (readAt axes' axes).Perm (List.range rank) := by
  have hlen : axes.length = rank := h.length_eq.trans List.length_range
  rw [← hlen] at h'
  exact (perm_readAt h').trans h

/-- Permuted by `axes` and then by `axes'`, a shape is permuted by what `axes` holds at `axes'`. -/
lemma permute_readAt (h : axes.Perm (List.range shape.length))
    (h' : axes'.Perm (List.range shape.length)) :
    permute (readAt axes shape) axes' = permute shape (readAt axes' axes) := by
  have hlen : (readAt axes shape).length = shape.length := (perm_readAt h).length_eq
  rw [permute_of_perm_range (hlen ▸ h'), permute_of_perm_range (perm_range_readAt h h'),
    readAt_readAt fun axis haxis => List.mem_range.1 (h.subset haxis)]

/-! ## Main statement -/

/-- A list of axes is accepted if every axis stands in it exactly once, and any other list is
refused for that, without a trap.  What comes out has at each place the size of the axis listed
there.  Two permutations one after the other are the one that reads the first list at the second. -/
theorem permute_accepts_permutations (shape : List Size) (axes : List Nat) :
    ((∃ out, permute shape axes = .ok out) ↔ ListsEachOnce shape.length axes) ∧
      (¬ListsEachOnce shape.length axes →
        permute shape axes = .error (.refusal (.notPermutation axes shape.length))) ∧
      ∀ out, permute shape axes = .ok out →
        out.Perm shape ∧ List.Forall₂ (fun axis n => shape[axis]? = some n) axes out ∧
          ∀ axes', ListsEachOnce shape.length axes' →
            permute out axes' = permute shape (readAt axes' axes) := by
  rw [listsEachOnce_iff_perm_range]
  refine ⟨⟨?_, fun h => ⟨_, permute_of_perm_range h⟩⟩, permute_of_not_perm_range, ?_⟩
  · rintro ⟨out, hout⟩
    exact isPermutation_iff_perm_range.1 (permute_eq_ok_iff.1 hout).1
  · intro out hout
    obtain ⟨hperm, hread⟩ := permute_eq_ok_iff.1 hout
    rw [isPermutation_iff_perm_range] at hperm
    refine ⟨perm_of_forall₂_getElem? hperm hread, hread, fun axes' haxes' => ?_⟩
    rw [← readAt_eq_of_forall₂ hread]
    exact permute_readAt hperm (listsEachOnce_iff_perm_range.1 haxes')

/-- Three axes, rotated twice, are rotated the other way round.  A repeated axis is refused, and so
is one that is out of range. -/
theorem permute_accepts_permutations_rotated :
    permute [2, 3, 4] [2, 0, 1] = .ok [4, 2, 3] ∧
      permute [4, 2, 3] [2, 0, 1] = permute [2, 3, 4] [1, 2, 0] ∧
      permute [2, 3, 4] [0, 0, 1] = .error (.refusal (.notPermutation [0, 0, 1] 3)) ∧
      permute [2, 3, 4] [0, 1, 3] = .error (.refusal (.notPermutation [0, 1, 3] 3)) := by
  have hrotated : permute [2, 3, 4] [2, 0, 1] = .ok [4, 2, 3] := by rfl
  obtain ⟨-, -, hcomes⟩ := permute_accepts_permutations [2, 3, 4] [2, 0, 1]
  obtain ⟨-, -, htwice⟩ := hcomes _ hrotated
  exact ⟨hrotated, htwice [2, 0, 1] (by decide),
    (permute_accepts_permutations [2, 3, 4] [0, 0, 1]).2.1 (by decide),
    (permute_accepts_permutations [2, 3, 4] [0, 1, 3]).2.1 (by decide)⟩

end ShapeAlgebra.Warp.ShapeHost
