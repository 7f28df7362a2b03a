import ShapeAlgebra.Proofs.Size
import ShapeAlgebra.Proofs.Slot.Position
import ShapeAlgebra.Warp.ShapeHost

/-!
# The contracts of the host of shapes

What each operation of the host of shapes makes of a shape, and for which form of a call it
refuses.  The operations never trap.  In the integers a view and a permutation keep the number of
elements, and an expansion multiplies it by its factors other than `-1`.
-/

namespace ShapeAlgebra.Warp

/-- Whether a refusal is for the form of a call, whatever the sizes: more than one axis to be
inferred, axes that are no permutation, or a number of factors that is not that of the axes. -/
def HostError.isFormal : HostError → Bool
  | .manyInferred _ | .notPermutation _ _ | .factorCount _ _ => true
  | .elementCount _ _ | .badFactor _ | .overflow _ => false

/-- A refusal for the form of a call only if `wrong` allows for it, and no trap. -/
abbrev FormalOnlyIf (wrong : Prop) : Fault HostError → Prop :=
  Fault.Within (fun cause => cause.isFormal = true → wrong) False

namespace ShapeHost

variable {shape sizes : List Size} {wrong : Prop}

/-- A count of elements that is not refused is the product. -/
lemma meets_countElements :
    Meets (countElements sizes) (fun n => Size.product? sizes = some n) (FormalOnlyIf wrong) := by
  unfold countElements
  cases h : Size.product? sizes with
  | some n => rfl
  | none =>
    intro hformal
    cases hformal

/-! ## Views -/

/-- Filling in changes marks only. -/
lemma forall₂_fillInferred (n : Size) (sizes : List Size) :
    List.Forall₂ (fun s m => s = -1 ∨ m = s) sizes (fillInferred n sizes) := by
  unfold fillInferred
  rw [List.forall₂_map_right_iff, List.forall₂_same]
  intro s _
  by_cases h : s = -1
  · exact .inl h
  · exact .inr (if_neg h)

/-- The sizes that are not to be inferred are left alone. -/
lemma meets_infer {total : Size} :
    Meets (infer shape total sizes) (List.Forall₂ (fun s m => s = -1 ∨ m = s) sizes)
      (FormalOnlyIf (1 < sizes.count (-1))) := by
  have hrefuse : (HostError.elementCount shape sizes).isFormal = true → 1 < sizes.count (-1) :=
    fun hformal => by cases hformal
  unfold infer
  split
  · exact List.forall₂_same.2 fun s _ => .inr rfl
  · refine meets_countElements.bind fun known _ => ?_
    split
    · exact hrefuse
    · rename_i hknown
      have htrap : known = 0 ∨ known = -1 ∧ total = Int64.minValue → False :=
        Size.not_trapped_of_pos (Int64.not_le.1 hknown)
      refine (Size.meets_remainder htrap).bind fun rest _ => ?_
      split
      · refine (Size.meets_quotient htrap).bind fun n _ => ?_
        exact forall₂_fillInferred n sizes
      · exact hrefuse
  · rename_i hzero hone
    exact fun _ => Nat.lt_of_le_of_ne (Nat.pos_of_ne_zero hzero) (Ne.symm hone)

/-- What a view makes of a shape. -/
theorem meets_view :
    Meets (view shape sizes)
      (fun out => Size.exactProduct out = Size.exactProduct shape ∧ (∀ n ∈ out, 0 ≤ n) ∧
        List.Forall₂ (fun s m => s = -1 ∨ m = s) sizes out)
      (FormalOnlyIf (1 < sizes.count (-1))) := by
  have hrefuse : (HostError.elementCount shape sizes).isFormal = true → 1 < sizes.count (-1) :=
    fun hformal => by cases hformal
  refine meets_countElements.bind fun total htotal => ?_
  refine meets_infer.bind fun out hout => ?_
  split
  · exact hrefuse
  · rename_i hneg
    refine meets_countElements.bind fun count hcount => ?_
    split
    · rename_i hsame
      refine ⟨?_, fun n hn => ?_, hout⟩
      · rw [← Size.toInt_of_product?_eq_some hcount, ← Size.toInt_of_product?_eq_some htotal,
          hsame]
      · rw [Bool.not_eq_true, List.any_eq_false] at hneg
        simpa using hneg n hn
    · exact hrefuse

/-! ## Permutations -/

/-- An entry is still without a mark behind the mark of `axis` if it was without one before and is
not that of `axis`. -/
lemma getElem?_set_eq_some_false_iff {seen : List Bool} {axis other : Nat} :
    (seen.set axis true)[other]? = some false ↔ other ≠ axis ∧ seen[other]? = some false := by
  by_cases h : axis = other
  · subst h
    simp [List.getElem?_set]
  · simp [List.getElem?_set_ne h, Ne.symm h]

/-- Axes are unseen as they come up when they are different and none of them came up before. -/
lemma allUnseen_iff {seen : List Bool} {axes : List Nat} :
    allUnseen seen axes = true ↔ axes.Nodup ∧ ∀ axis ∈ axes, seen[axis]? = some false := by
  induction axes generalizing seen with
  | nil => simp [allUnseen]
  | cons axis axes ih =>
    rw [allUnseen, Bool.and_eq_true, beq_iff_eq, ih, List.nodup_cons, List.forall_mem_cons]
    simp only [getElem?_set_eq_some_false_iff]
    constructor
    · rintro ⟨hunseen, hnodup, hrest⟩
      exact ⟨⟨fun hmem => (hrest axis hmem).1 rfl, hnodup⟩, hunseen,
        fun other h => (hrest other h).2⟩
    · rintro ⟨⟨hnotMem, hnodup⟩, hunseen, hrest⟩
      refine ⟨hunseen, hnodup, fun other h => ⟨?_, hrest other h⟩⟩
      rintro rfl
      exact hnotMem h

/-- The check of permutations decides whether every axis is listed once. -/
lemma isPermutation_iff {rank : Nat} {axes : List Nat} :
    isPermutation rank axes = true ↔
      axes.length = rank ∧ (∀ axis ∈ axes, axis < rank) ∧ axes.Nodup := by
  have hentry (axis : Nat) : (List.replicate rank false)[axis]? = some false ↔ axis < rank := by
    simp [List.getElem?_replicate]
  rw [isPermutation, Bool.and_eq_true, beq_iff_eq, allUnseen_iff]
  simp only [hentry]
  exact and_congr_right fun _ => and_comm

/-- Axes are a permutation when they are all the axes, in any order. -/
lemma isPermutation_iff_perm_range {rank : Nat} {axes : List Nat} :
    isPermutation rank axes = true ↔ axes.Perm (List.range rank) := by
  rw [isPermutation_iff]
  constructor
  · rintro ⟨hlen, hlt, hnodup⟩
    exact perm_range_of_nodup hlen hlt hnodup
  · intro h
    refine ⟨h.length_eq.trans List.length_range, fun axis haxis => ?_, ?_⟩
    · exact List.mem_range.1 (h.subset haxis)
    · exact h.nodup_iff.2 List.nodup_range

/-- A shape is read at the axes of a permutation. -/
lemma permute_eq_ok_iff {axes : List Nat} {out : List Size} :
    permute shape axes = .ok out ↔
      isPermutation shape.length axes = true ∧
        List.Forall₂ (fun axis n => shape[axis]? = some n) axes out := by
  unfold permute
  split
  · rename_i hperm
    rw [mapM_eq_ok_iff]
    simp only [Checked.elementAt_eq_ok_iff, hperm, true_and]
  · rename_i hperm
    constructor
    · intro h
      cases h
    · exact fun h => absurd h.1 hperm

/-- What a permutation makes of a shape. -/
theorem meets_permute {axes : List Nat} :
    Meets (permute shape axes)
      (fun out => out.Perm shape ∧
        List.Forall₂ (fun axis n => shape[axis]? = some n) axes out)
      (FormalOnlyIf (isPermutation shape.length axes = false)) := by
  unfold permute
  split
  · rename_i hperm
    have hlt := (isPermutation_iff.1 hperm).2.1
    refine (Meets.mapM fun axis haxis => meets_elementAt (hlt axis haxis)).imp
      (fun out hout => ⟨?_, hout⟩) fun _ hbad => hbad
    exact perm_of_forall₂_getElem? (isPermutation_iff_perm_range.1 hperm) hout
  · rename_i hperm
    exact fun _ => Bool.not_eq_true _ ▸ hperm

/-! ## Expansions -/

/-- The size `n` of an axis becomes `m` by `factor`: unchanged by `-1`, and multiplied by a
positive one. -/
def ExpandsTo (n factor m : Size) : Prop :=
  factor = -1 ∧ m = n ∨ factor ≠ -1 ∧ 0 < factor ∧ m.toInt = n.toInt * factor.toInt

/-- An axis is expanded by its factor, and a factor that is none is a formal error. -/
lemma meets_expandAxis {n factor : Size} :
    Meets (expandAxis shape n factor) (ExpandsTo n factor) (FormalOnlyIf wrong) := by
  unfold expandAxis
  split
  · rename_i hkeep
    exact .inl ⟨hkeep, rfl⟩
  · rename_i hfactor
    split
    · rename_i hpos
      cases h : Size.mul? n factor with
      | some m => exact .inr ⟨hfactor, hpos, Size.mul?_eq_some_iff.1 h⟩
      | none =>
        intro hformal
        cases hformal
    · intro hformal
      cases hformal

/-- What an expansion makes of a shape. -/
theorem meets_expand {factors : List Size} :
    Meets (expand shape factors)
      (fun out => factors.length = shape.length ∧
        List.Forall₂ (fun axis m => ExpandsTo axis.1 axis.2 m) (shape.zip factors) out)
      (FormalOnlyIf (factors.length ≠ shape.length)) := by
  unfold expand
  split
  · rename_i hlen
    refine (Meets.mapM fun axis _ => meets_expandAxis).imp (fun out hout => ?_) fun _ h => h
    exact ⟨hlen, hout⟩
  · rename_i hlen
    exact fun _ => hlen

/-- An expansion multiplies the number of elements by its factors other than `-1`. -/
lemma exactProduct_of_expandsTo {factors out : List Size} (hlen : factors.length = shape.length)
    (h : List.Forall₂ (fun axis m => ExpandsTo axis.1 axis.2 m) (shape.zip factors) out) :
    Size.exactProduct out =
      Size.exactProduct shape * Size.exactProduct (factors.filter (· ≠ -1)) := by
  induction shape generalizing factors out with
  | nil =>
    obtain rfl := List.eq_nil_of_length_eq_zero hlen
    obtain rfl := List.forall₂_nil_left_iff.1 h
    rfl
  | cons n shape ih =>
    obtain ⟨factor, factors, rfl⟩ := List.exists_cons_of_length_eq_add_one hlen
    obtain ⟨m, rest, haxis, hrest, rfl⟩ := List.forall₂_cons_left_iff.1 h
    rw [Size.exactProduct_cons, Size.exactProduct_cons, ih (Nat.succ.inj hlen) hrest]
    obtain ⟨rfl, rfl⟩ | ⟨hfactor, _, hm⟩ := haxis
    · rw [List.filter_cons_of_neg (by simp), Int.mul_assoc]
    · rw [List.filter_cons_of_pos (by simpa using hfactor), Size.exactProduct_cons, hm]
      ac_rfl

/-- An expansion of sizes without a sign leaves them without one. -/
lemma ExpandsTo.nonneg {n factor m : Size} (h : ExpandsTo n factor m) (hn : 0 ≤ n) : 0 ≤ m := by
  obtain ⟨_, rfl⟩ | ⟨_, hpos, hm⟩ := h
  · exact hn
  · rw [Size.nonneg_iff] at hn ⊢
    rw [Size.pos_iff] at hpos
    rw [hm]
    exact Int.mul_nonneg hn hpos.le

end ShapeHost

end ShapeAlgebra.Warp
