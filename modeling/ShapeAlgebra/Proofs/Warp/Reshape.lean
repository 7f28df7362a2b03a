import ShapeAlgebra.Proofs.Warp.ShapeHost

/-!
# Which views the host of shapes accepts

A view has to keep the number of elements, and the count of the elements may not leave the range of
sizes, neither on the shape that is there nor on the sizes that are asked for.  With one size left
to be inferred there are two counts on the side of the sizes: first that of the known sizes, and
then that of all of them, the inferred one filled in.  The second one is no further condition.  The
known sizes have a positive product, so they are positive themselves, and no product on the way to
the number of elements is larger than it.
-/

namespace ShapeAlgebra.Warp.ShapeHost

variable {shape sizes out before after : List Size} {total n : Size}

/-- The sizes that are not left to be inferred. -/
def known (sizes : List Size) : List Size := sizes.filter (· ≠ -1)

/-- A shape can be viewed with `sizes`: no product of sizes leaves the range, at most one of the
sizes is to be inferred and no other one is negative, and the product of the known sizes is the
number of elements, or divides it where a size is to be inferred. -/
structure Reshapes (shape sizes : List Size) : Prop where
  shape_inRange : Size.StaysInRange shape
  count_le : sizes.count (-1) ≤ 1
  nonneg : ∀ s ∈ known sizes, 0 ≤ s
  known_inRange : Size.StaysInRange (known sizes)
  counts :
    sizes.count (-1) = 0 ∧ Size.exactProduct (known sizes) = Size.exactProduct shape ∨
    sizes.count (-1) = 1 ∧ 0 < Size.exactProduct (known sizes) ∧
      Size.exactProduct (known sizes) ∣ Size.exactProduct shape ∧ 0 ≤ Size.exactProduct shape

/-! ## Known sizes -/

/-- Without a mark all sizes are known. -/
lemma known_eq_self (h : -1 ∉ sizes) : known sizes = sizes := by
  refine List.filter_eq_self.2 fun s hs => ?_
  simpa using fun heq : s = -1 => h (heq ▸ hs)

/-- Beside a single mark the other sizes are known. -/
lemma known_insert (h : -1 ∉ before ++ after) :
    known (before ++ -1 :: after) = before ++ after := by
  have hsplit : known (before ++ -1 :: after) = known (before ++ after) := by
    simp [known, List.filter_append]
  rw [hsplit, known_eq_self h]

/-- Without a mark there is nothing to fill in. -/
lemma fillInferred_eq_self (h : -1 ∉ sizes) : fillInferred n sizes = sizes := by
  refine (List.map_congr_left fun s hs => if_neg ?_).trans (List.map_id sizes)
  exact fun heq => h (heq ▸ hs)

/-- A single mark is replaced by the size that is filled in. -/
lemma fillInferred_insert (h : -1 ∉ before ++ after) :
    fillInferred n (before ++ -1 :: after) = before ++ n :: after := by
  rw [List.mem_append, not_or] at h
  have happend : fillInferred n (before ++ -1 :: after) =
      fillInferred n before ++ n :: fillInferred n after := List.map_append
  rw [happend, fillInferred_eq_self h.1, fillInferred_eq_self h.2]

/-- A size that is to be inferred alone stands between the known ones. -/
lemma exists_insert_of_count_eq_one (h : sizes.count (-1) = 1) :
    ∃ before after, sizes = before ++ -1 :: after ∧ -1 ∉ before ++ after := by
  have hmem : (-1 : Size) ∈ sizes := List.count_pos_iff.1 (h ▸ Nat.one_pos)
  obtain ⟨before, after, rfl, hbefore⟩ := List.eq_append_cons_of_mem hmem
  rw [List.count_append, List.count_cons_self, List.count_eq_zero.2 hbefore] at h
  have hafter : -1 ∉ after := List.count_eq_zero.1 (by omega)
  exact ⟨before, after, rfl, List.mem_append.not.2 (not_or.2 ⟨hbefore, hafter⟩)⟩

/-! ## Steps of a view -/

/-- Elements are counted by the checked product. -/
lemma countElements_eq_ok_iff :
    countElements sizes = .ok n ↔ Size.product? sizes = some n := by
  unfold countElements
  cases Size.product? sizes <;> simp [Checked.refuse]

/-- Without a mark there is nothing to infer. -/
lemma infer_of_count_eq_zero (h : sizes.count (-1) = 0) :
    infer shape total sizes = .ok sizes := by
  rw [infer, h]
  rfl

/-- Where something has been inferred there was one mark at most. -/
lemma count_le_of_infer (h : infer shape total sizes = .ok out) : sizes.count (-1) ≤ 1 := by
  unfold infer at h
  split at h
  · omega
  · omega
  · cases h

/-- A size is inferred when the number of elements is a multiple of the known sizes. -/
lemma infer_eq_ok_iff (h : sizes.count (-1) = 1) :
    infer shape total sizes = .ok out ↔
      ∃ count n, Size.product? (known sizes) = some count ∧ 0 < count ∧
        n.toInt * count.toInt = total.toInt ∧ out = fillInferred n sizes := by
  rw [infer, h]
  change (countElements (known sizes) >>= _) = _ ↔ _
  rw [bind_eq_ok_iff]
  refine exists_congr fun count => ?_
  rw [countElements_eq_ok_iff]
  -- a count that is not positive is refused before it is divided by
  by_cases hcount : count ≤ 0
  · rw [if_pos hcount]
    constructor
    · rintro ⟨_, ⟨⟩⟩
    · rintro ⟨_, _, hpos, _⟩
      exact absurd hcount (Int64.not_le.2 hpos)
  · have hpos : 0 < count := Int64.not_le.1 hcount
    rw [if_neg hcount, bind_eq_ok_iff]
    constructor
    · rintro ⟨hknown, rest, hrest, hrem⟩
      split at hrem
      · rename_i hzero
        subst hzero
        obtain ⟨n, hn, hfill⟩ := bind_eq_ok_iff.1 hrem
        exact ⟨n, hknown, hpos, (Size.exact_division_iff.1 ⟨hrest, hn⟩).2,
          (Except.ok.inj hfill).symm⟩
      · cases hrem
    · rintro ⟨n, hknown, _, hproduct, rfl⟩
      have hne : count ≠ 0 := (Size.pos_iff.1 hpos).ne' ∘ Size.eq_zero_iff.1
      obtain ⟨hrest, hn⟩ := Size.exact_division_iff.2 ⟨hne, hproduct⟩
      exact ⟨hknown, 0, hrest, bind_eq_ok_iff.2 ⟨n, hn, rfl⟩⟩

/-- A view is the sizes with the inferred one filled in, if they have no sign and the number of
elements is the same. -/
lemma view_eq_ok_iff :
    view shape sizes = .ok out ↔
      ∃ total, Size.product? shape = some total ∧ infer shape total sizes = .ok out ∧
        (∀ s ∈ out, 0 ≤ s) ∧ Size.product? out = some total := by
  unfold view
  rw [bind_eq_ok_iff]
  refine exists_congr fun total => ?_
  rw [countElements_eq_ok_iff]
  refine and_congr_right fun _ => ?_
  rw [bind_eq_ok_iff]
  constructor
  · rintro ⟨result, hinfer, hresult⟩
    split at hresult
    · cases hresult
    · rename_i hneg
      obtain ⟨count, hcount, hsame⟩ := bind_eq_ok_iff.1 hresult
      split at hsame
      · rename_i heq
        obtain rfl := Except.ok.inj hsame
        refine ⟨hinfer, fun s hs => ?_, heq ▸ countElements_eq_ok_iff.1 hcount⟩
        rw [Bool.not_eq_true, List.any_eq_false] at hneg
        simpa using hneg s hs
      · cases hsame
  · rintro ⟨hinfer, hnonneg, hcount⟩
    have hneg : ¬out.any (· < 0) = true := by
      rw [Bool.not_eq_true, List.any_eq_false]
      intro s hs
      simpa using hnonneg s hs
    refine ⟨out, hinfer, ?_⟩
    rw [if_neg hneg]
    exact bind_eq_ok_iff.2 ⟨total, countElements_eq_ok_iff.2 hcount, if_pos rfl⟩

/-! ## Accepted views -/

/-- Sizes without a sign that have the same product are taken as they are. -/
lemma view_eq_self (hnonneg : ∀ s ∈ sizes, 0 ≤ s) (hshape : Size.StaysInRange shape)
    (hsizes : Size.StaysInRange sizes)
    (hsame : Size.exactProduct sizes = Size.exactProduct shape) :
    view shape sizes = .ok sizes := by
  have hcount : sizes.count (-1) = 0 := by
    refine List.count_eq_zero.2 fun hmem => ?_
    exact Size.ne_neg_one_of_nonneg (hnonneg _ hmem) rfl
  obtain ⟨total, htotal⟩ := Size.exists_product?_iff.2 hshape
  refine view_eq_ok_iff.2 ⟨total, htotal, infer_of_count_eq_zero hcount, hnonneg, ?_⟩
  rw [Size.product?_eq_some_iff, hsame]
  exact ⟨hsizes, Size.toInt_of_product?_eq_some htotal⟩

/-- A size between known ones is inferred when it is the exact quotient. -/
lemma view_insert (hnonneg : ∀ s ∈ before ++ after, 0 ≤ s) (hn : 0 ≤ n)
    (hshape : Size.StaysInRange shape) (hknown : Size.StaysInRange (before ++ after))
    (hpos : 0 < Size.exactProduct (before ++ after))
    (hquotient : n.toInt * Size.exactProduct (before ++ after) = Size.exactProduct shape) :
    view shape (before ++ -1 :: after) = .ok (before ++ n :: after) := by
  have hnot : -1 ∉ before ++ after :=
    fun hmem => Size.ne_neg_one_of_nonneg (hnonneg _ hmem) rfl
  have hone : (before ++ -1 :: after).count (-1) = 1 := by
    rw [List.count_append, List.count_cons_self, ← Nat.add_assoc, ← List.count_append,
      List.count_eq_zero.2 hnot]
  obtain ⟨total, htotal⟩ := Size.exists_product?_iff.2 hshape
  obtain ⟨count, hcount⟩ := Size.exists_product?_iff.2 hknown
  have htotal' : total.toInt = Size.exactProduct shape := Size.toInt_of_product?_eq_some htotal
  have hcount' : count.toInt = Size.exactProduct (before ++ after) :=
    Size.toInt_of_product?_eq_some hcount
  -- with the quotient filled in, the elements are as many as those of the shape
  have hall : Size.exactProduct (before ++ n :: after) = Size.exactProduct shape := by
    rw [← hquotient, Size.exactProduct_append, Size.exactProduct_append, Size.exactProduct_cons]
    ac_rfl
  refine view_eq_ok_iff.2 ⟨total, htotal, (infer_eq_ok_iff hone).2 ⟨count, n, ?_, ?_, ?_, ?_⟩,
    fun s hs => ?_, Size.product?_eq_some_iff.2 ⟨?_, htotal'.trans hall.symm⟩⟩
  · rw [known_insert hnot, hcount]
  · rw [Size.pos_iff, hcount']
    exact hpos
  · rw [hcount', hquotient, htotal']
  · exact (fillInferred_insert hnot).symm
  · rcases List.mem_append.1 hs with hmem | hmem
    · exact hnonneg s (List.mem_append_left _ hmem)
    · rcases List.mem_cons.1 hmem with rfl | hmem
      · exact hn
      · exact hnonneg s (List.mem_append_right _ hmem)
  · refine hknown.insert (Size.pos_of_exactProduct_pos hnonneg hpos) hn ?_
    rw [hquotient, ← htotal']
    exact total.toInt_lt

/-- Where one size is to be inferred, it is the exact quotient of the number of elements. -/
lemma Reshapes.exists_insert (h : Reshapes shape sizes) (hone : sizes.count (-1) = 1) :
    ∃ before after n, sizes = before ++ -1 :: after ∧ -1 ∉ before ++ after ∧
      0 < Size.exactProduct (before ++ after) ∧
      n.toInt * Size.exactProduct (before ++ after) = Size.exactProduct shape ∧
      view shape sizes = .ok (before ++ n :: after) := by
  obtain ⟨hzero, -⟩ | ⟨-, hpos, hdvd, hshape⟩ := h.counts
  · exact absurd (hzero.symm.trans hone) Nat.zero_ne_one
  · have hnonneg := h.nonneg
    have hknown := h.known_inRange
    obtain ⟨before, after, rfl, hnot⟩ := exists_insert_of_count_eq_one hone
    rw [known_insert hnot] at hnonneg hknown hpos hdvd
    obtain ⟨q, hq⟩ := hdvd
    have hq0 : 0 ≤ q := by
      by_contra hneg
      have hproduct := Int.mul_neg_of_pos_of_neg hpos (Int.not_le.1 hneg)
      omega
    -- the quotient is no greater than the count, so it is a size
    have hle : q ≤ Size.exactProduct shape := by
      rw [hq]
      exact le_mul_of_one_le_left hq0 hpos
    have hlt : Size.exactProduct shape < 2 ^ 63 := h.shape_inRange.exactProduct_lt
    have hn : (Int64.ofInt q).toInt = q := Int64.toInt_ofInt_of_le (by omega) (by omega)
    have hn0 : 0 ≤ Int64.ofInt q := by
      rw [Size.nonneg_iff, hn]
      exact hq0
    have hquotient : (Int64.ofInt q).toInt * Size.exactProduct (before ++ after) =
        Size.exactProduct shape := by
      rw [hn, hq, Int.mul_comm]
    exact ⟨before, after, _, rfl, hnot, hpos, hquotient,
      view_insert hnonneg hn0 h.shape_inRange hknown hpos hquotient⟩

/-- The host views a shape as everything that it reshapes to. -/
lemma Reshapes.exists_view (h : Reshapes shape sizes) : ∃ out, view shape sizes = .ok out := by
  rcases h.counts with ⟨hzero, hsame⟩ | ⟨hone, -⟩
  · have hknown : known sizes = sizes := known_eq_self (List.count_eq_zero.1 hzero)
    have hnonneg := h.nonneg
    have hsizes := h.known_inRange
    rw [hknown] at hnonneg hsizes hsame
    exact ⟨sizes, view_eq_self hnonneg h.shape_inRange hsizes hsame⟩
  · obtain ⟨before, after, n, -, -, -, -, hview⟩ := h.exists_insert hone
    exact ⟨_, hview⟩

/-- The sizes of a view that is accepted. -/
lemma reshapes_of_view (h : view shape sizes = .ok out) : Reshapes shape sizes := by
  obtain ⟨total, htotal, hinfer, hnonneg, hcount⟩ := view_eq_ok_iff.1 h
  have hshape := (Size.product?_eq_some_iff.1 htotal).1
  have htotal' : total.toInt = Size.exactProduct shape := Size.toInt_of_product?_eq_some htotal
  have hle : sizes.count (-1) ≤ 1 := count_le_of_infer hinfer
  rcases Nat.le_one_iff_eq_zero_or_eq_one.1 hle with hzero | hone
  · obtain rfl := Except.ok.inj ((infer_of_count_eq_zero hzero).symm.trans hinfer)
    have hknown : known sizes = sizes := known_eq_self (List.count_eq_zero.1 hzero)
    refine ⟨hshape, hle, ?_, ?_, .inl ⟨hzero, ?_⟩⟩
    · rwa [hknown]
    · rw [hknown]
      exact (Size.product?_eq_some_iff.1 hcount).1
    · rw [hknown, ← Size.toInt_of_product?_eq_some hcount, htotal']
  · obtain ⟨count, n, hknown, hpos, hquotient, rfl⟩ := (infer_eq_ok_iff hone).1 hinfer
    obtain ⟨before, after, rfl, hnot⟩ := exists_insert_of_count_eq_one hone
    rw [fillInferred_insert hnot] at hnonneg
    have hcount' := Size.product?_eq_some_iff.1 hknown
    have hn : 0 ≤ n.toInt := Size.nonneg_iff.1 (hnonneg n (by simp))
    rw [Size.pos_iff, hcount'.2] at hpos
    rw [hcount'.2, htotal'] at hquotient
    refine ⟨hshape, hle, fun s hs => ?_, hcount'.1, .inr ⟨hone, hpos, ?_, ?_⟩⟩
    · rw [known_insert hnot] at hs
      rcases List.mem_append.1 hs with hmem | hmem
      · exact hnonneg s (List.mem_append_left _ hmem)
      · exact hnonneg s (List.mem_append_right _ (List.mem_cons_of_mem n hmem))
    · exact ⟨n.toInt, by rw [← hquotient, Int.mul_comm]⟩
    · rw [← hquotient]
      exact Int.mul_nonneg hn hpos.le

/-- The host of shapes accepts a view exactly when the shape can be viewed with the sizes.  What it
gives are the sizes, but for the one to be inferred; none of them is negative, and their product in
the integers is that of the shape.  A view never traps. -/
theorem view_decides_reshapes (shape sizes : List Size) :
    ((∃ out, view shape sizes = .ok out) ↔ Reshapes shape sizes) ∧
      (∀ out, view shape sizes = .ok out →
        List.Forall₂ (fun s m => s = -1 ∨ m = s) sizes out ∧ (∀ n ∈ out, 0 ≤ n) ∧
          Size.exactProduct out = Size.exactProduct shape) ∧
      (view shape sizes).Answers := by
  refine ⟨⟨?_, Reshapes.exists_view⟩, fun out hout => ?_, meets_view.answers not_false⟩
  · rintro ⟨out, hout⟩
    exact reshapes_of_view hout
  · obtain ⟨hproduct, hnonneg, hsizes⟩ := meets_view.post_of_eq_ok hout
    exact ⟨hsizes, hnonneg, hproduct⟩

/-- Three rows of no elements each, and a shape of negative size, where the quotient is `-1` and
cannot be told from the mark of an axis to be inferred. -/
theorem view_decides_reshapes_zero_and_negative :
    Reshapes [0, 5] [3, -1] ∧ view [0, 5] [3, -1] = .ok [3, 0] ∧
      Size.exactProduct [3, 0] = Size.exactProduct [0, 5] ∧
      ¬Reshapes [-8] [-1, 8] ∧
      view [-8] [-1, 8] = .error (.refusal (.elementCount [-8] [-1, 8])) := by
  have hzero : view [0, 5] [3, -1] = .ok [3, 0] := by rfl
  have hrefused : view [-8] [-1, 8] = .error (.refusal (.elementCount [-8] [-1, 8])) := by rfl
  obtain ⟨hiff, hout, -⟩ := view_decides_reshapes [0, 5] [3, -1]
  obtain ⟨hiff', -, -⟩ := view_decides_reshapes [-8] [-1, 8]
  refine ⟨hiff.1 ⟨_, hzero⟩, hzero, (hout _ hzero).2.2, fun h => ?_, hrefused⟩
  obtain ⟨out, hview⟩ := hiff'.2 h
  rw [hrefused] at hview
  cases hview

end ShapeAlgebra.Warp.ShapeHost
