import Mathlib.Data.List.TakeWhile
import ShapeAlgebra.Proofs.Resolve.Reordering
import ShapeAlgebra.Proofs.Warp.Reshape

/-!
# When a count of elements overflows

The elements of a shape are counted from left to right, and the count is refused when a product on
the way to it leaves the range.  As long as all sizes are positive the products only grow, and so a
count is refused exactly when the number of elements is no size, in whatever order the axes stand.
A size of zero changes that.  The shape has no elements then, but the sizes in front of the zero are
multiplied first, and their product may be out of range already.  With the zero in front the same
axes can be counted.

The host of shapes and the resolvers count in the same way.  What else a view depends on is the
number of elements, so the order of the axes makes a difference to an overflow exactly when one
order can be counted and the other one cannot.
-/

namespace ShapeAlgebra

/-! ## Products up to a zero -/

namespace Size

variable {sizes moved before after : List Size}

/-- The sizes in front of the first one that is zero. -/
def beforeZero (sizes : List Size) : List Size := sizes.takeWhile (· ≠ 0)

/-- Without a zero all sizes count. -/
lemma beforeZero_eq_self (h : 0 ∉ sizes) : beforeZero sizes = sizes := by
  refine List.takeWhile_eq_self_iff.2 fun n hn => ?_
  simpa using fun heq : n = 0 => h (heq ▸ hn)

/-- What comes behind a zero does not count. -/
lemma beforeZero_append (h : 0 ∉ before) : beforeZero (before ++ 0 :: after) = before := by
  have hpos : ∀ n ∈ before, decide (n ≠ 0) = true := by
    intro n hn
    simpa using fun heq : n = 0 => h (heq ▸ hn)
  rw [beforeZero, List.takeWhile_append_of_pos hpos]
  simp

/-- Positive sizes only multiply up, so it is enough that the whole product is in range. -/
lemma staysInRange_iff_of_pos (h : ∀ n ∈ sizes, 0 < n) :
    StaysInRange sizes ↔ exactProduct sizes < 2 ^ 63 := by
  refine ⟨StaysInRange.exactProduct_lt, fun hlt count => ?_⟩
  have hpos : 0 < exactProduct (sizes.take count) :=
    exactProduct_pos fun n hn => h n (List.mem_of_mem_take hn)
  have hle := exactProduct_take_le h count
  omega

/-- Behind a zero every product is zero. -/
lemma staysInRange_append_zero : StaysInRange (before ++ 0 :: after) ↔ StaysInRange before := by
  constructor
  · intro h count
    have hcount := h (min count before.length)
    rwa [List.take_append_of_le_length (Nat.min_le_right _ _), ← List.take_eq_take_min] at hcount
  · intro h count
    rcases Nat.lt_or_ge before.length count with hmore | hle
    · -- the zero is among the sizes that are multiplied
      obtain ⟨k, rfl⟩ := Nat.exists_eq_add_of_lt hmore
      have hzero : 0 ∈ (before ++ 0 :: after).take (before.length + k + 1) := by
        rw [Nat.add_assoc, List.take_length_add_append, List.take_succ_cons]
        simp
      rw [exactProduct_eq_zero hzero]
      decide
    · rw [List.take_append_of_le_length hle]
      exact h count

/-- The product of the sizes in front of the first zero is in range. -/
def CountsInRange (sizes : List Size) : Prop := exactProduct (beforeZero sizes) < 2 ^ 63

instance : Decidable (CountsInRange sizes) :=
  inferInstanceAs (Decidable (exactProduct (beforeZero sizes) < 2 ^ 63))

/-- For sizes without a sign it is enough to look at those in front of the first zero. -/
lemma staysInRange_iff_countsInRange (h : ∀ n ∈ sizes, 0 ≤ n) :
    StaysInRange sizes ↔ CountsInRange sizes := by
  unfold CountsInRange
  by_cases hzero : 0 ∈ sizes
  · obtain ⟨before, after, rfl, hbefore⟩ := List.eq_append_cons_of_mem hzero
    have hnonneg : ∀ n ∈ before, 0 ≤ n := fun n hn => h n (List.mem_append_left _ hn)
    rw [staysInRange_append_zero, beforeZero_append hbefore,
      staysInRange_iff_of_pos (pos_of_nonneg hnonneg hbefore)]
  · rw [beforeZero_eq_self hzero, staysInRange_iff_of_pos (pos_of_nonneg h hzero)]

/-- The checked product of sizes that are not negative has a value if the sizes in front of the
first zero can be counted. -/
lemma product?_eq_some_iff_countsInRange (h : ∀ n ∈ sizes, 0 ≤ n) {n : Size} :
    product? sizes = some n ↔ CountsInRange sizes ∧ n.toInt = exactProduct sizes := by
  rw [product?_eq_some_iff, staysInRange_iff_countsInRange h]

/-- The checked product of sizes that are not negative has no value if those in front of the first
zero cannot be counted. -/
lemma product?_eq_none_iff_countsInRange (h : ∀ n ∈ sizes, 0 ≤ n) :
    product? sizes = none ↔ ¬CountsInRange sizes := by
  rw [← staysInRange_iff_countsInRange h, ← exists_product?_iff, Option.eq_none_iff_forall_ne_some,
    not_exists]

/-- Two orders of the same sizes have the same product, or none, if both of them are in range in
front of a zero or neither is. -/
lemma product?_eq_of_perm (h : ∀ n ∈ sizes, 0 ≤ n) (hperm : sizes.Perm moved)
    (hcounts : CountsInRange sizes ↔ CountsInRange moved) :
    product? moved = product? sizes := by
  have hmoved : ∀ n ∈ moved, 0 ≤ n := fun n hn => h n (hperm.mem_iff.2 hn)
  refine Option.ext fun n => ?_
  rw [product?_eq_some_iff_countsInRange hmoved, product?_eq_some_iff_countsInRange h, hcounts,
    exactProduct_eq_of_perm hperm]

/-- Without a zero the order makes no difference. -/
lemma countsInRange_of_perm (hzero : 0 ∉ sizes) (hperm : sizes.Perm moved) :
    CountsInRange moved ↔ exactProduct sizes < 2 ^ 63 := by
  rw [CountsInRange, beforeZero_eq_self (hperm.mem_iff.not.1 hzero), exactProduct_eq_of_perm hperm]

/-- A zero can be moved to the front. -/
lemma exists_perm_product?_eq_zero (hzero : 0 ∈ sizes) :
    ∃ moved, sizes.Perm moved ∧ product? moved = some 0 := by
  obtain ⟨before, after, rfl, -⟩ := List.eq_append_cons_of_mem hzero
  refine ⟨0 :: (before ++ after), List.perm_middle, product?_eq_some_iff.2 ⟨?_, ?_⟩⟩
  · have hempty : StaysInRange [] := exists_product?_iff.1 ⟨1, rfl⟩
    exact staysInRange_append_zero.2 hempty
  · rw [exactProduct_cons, Int64.toInt_zero, Int.zero_mul]

/-- A quotient is never refused, so there is no cause to be told of. -/
lemma mapError_quotient {ε δ : Type} (f : ε → δ) (a b : Size) :
    (quotient a b : Checked ε Size).mapError (Fault.map f) = quotient a b := by
  unfold quotient
  split
  · rfl
  · split <;> rfl

/-- A remainder is never refused, so that no error of it can be restated. -/
lemma mapError_remainder {ε δ : Type} (f : ε → δ) (a b : Size) :
    (remainder a b : Checked ε Size).mapError (Fault.map f) = remainder a b := by
  rw [remainder, mapError_bind, mapError_quotient]
  rfl

end Size

/-! ## Views of a source in another order -/

namespace Resolve

variable {spec : String} {source moved target : Slots} {order : List Nat} {shape : List Size}

/-- Where both orders of a shape count to the same, a view of a source that has been moved about
comes to what it has come to before, with an axis to be inferred or without. -/
lemma view_reordered_of_product?_eq (h : source.Reordered order moved)
    (hdistinct : source.Distinct) (hlen : source.length = shape.length)
    (hproduct : Size.product? (readAt order shape) = Size.product? shape) :
    view spec moved target (readAt order shape) = view spec source target shape := by
  refine view_reordered_of_checkInferred h hdistinct hlen fun sizes => ?_
  simp only [checkInferred, checkDivisor, countElements, hproduct]

end Resolve

/-! ## Views of a shape in another order -/

namespace Warp

/-- A refusal told of the shape `shape`. -/
def HostError.quoting (shape : List Size) : HostError → HostError
  | .elementCount _ sizes => .elementCount shape sizes
  | cause => cause

namespace ShapeHost

variable {shape moved sizes : List Size} {total : Size}

/-- The error of a count quotes no shape, so that it is the same for all. -/
lemma mapError_countElements (sizes : List Size) :
    (countElements sizes).mapError (Fault.map (HostError.quoting shape)) = countElements sizes := by
  unfold countElements
  cases Size.product? sizes <;> rfl

/-- Inferring a size uses the shape for its errors only. -/
lemma infer_quoting :
    infer moved total sizes =
      (infer shape total sizes).mapError (Fault.map (HostError.quoting moved)) := by
  unfold infer
  split
  · rfl
  · rw [mapError_bind, mapError_countElements]
    refine congrArg _ (funext fun known => ?_)
    split
    · rfl
    · rw [mapError_bind, Size.mapError_remainder]
      refine congrArg _ (funext fun rest => ?_)
      split
      · rw [mapError_bind, Size.mapError_quotient]
        rfl
      · rfl
  · rfl

/-- Two shapes that count to the same have the same views and the same refusals, but for the shape
that is quoted in them. -/
lemma view_quoting (hmoved : Size.product? moved = some total)
    (hshape : Size.product? shape = some total) :
    view moved sizes = (view shape sizes).mapError (Fault.map (HostError.quoting moved)) := by
  rw [view, view, countElements_eq_ok_iff.2 hmoved, countElements_eq_ok_iff.2 hshape]
  change infer moved total sizes >>= _ = (infer shape total sizes >>= _).mapError _
  rw [mapError_bind, ← infer_quoting]
  refine congrArg _ (funext fun result => ?_)
  split
  · rfl
  · rw [mapError_bind, mapError_countElements]
    refine congrArg _ (funext fun count => ?_)
    split <;> rfl

/-! ## Overflows -/

/-- A view is refused since a number of elements is too large. -/
def RefusedForOverflow (shape sizes : List Size) : Prop :=
  ∃ counted, view shape sizes = Checked.refuse (.overflow counted)

/-- The elements of a shape without negative sizes are counted if the sizes in front of the first
zero can be. -/
lemma countElements_eq_ok_iff_countsInRange {n : Size} (h : ∀ n ∈ shape, 0 ≤ n) :
    countElements shape = .ok n ↔
      Size.CountsInRange shape ∧ n.toInt = Size.exactProduct shape := by
  rw [countElements_eq_ok_iff, Size.product?_eq_some_iff_countsInRange h]

/-- The resolvers count as the host does. -/
lemma ofExcept_countElements (spec : String) (shape : List Size) :
    Checked.ofExcept (Resolve.countElements spec shape) =
      (countElements shape).mapError (Fault.map fun _ => ⟨spec, .operand .elementCount⟩) := by
  unfold Resolve.countElements countElements
  cases Size.product? shape <;> rfl

/-- A shape that cannot be counted has no view at all. -/
lemma view_of_product?_eq_none (h : Size.product? shape = none) :
    view shape sizes = Checked.refuse (.overflow shape) := by
  rw [view, countElements, h]
  rfl

/-- A shape that can be counted can be viewed as it is. -/
lemma not_overflows_self (h : ∀ n ∈ shape, 0 ≤ n) (hcounts : Size.CountsInRange shape) :
    ¬RefusedForOverflow shape shape := by
  rintro ⟨counted, hrefused⟩
  have hrange := (Size.staysInRange_iff_countsInRange h).2 hcounts
  rw [view_eq_self h hrange hrange rfl] at hrefused
  cases hrefused

/-- An overflow is told alike of two shapes that count to the same. -/
lemma RefusedForOverflow.of_product?_eq (h : RefusedForOverflow shape sizes)
    (hproduct : Size.product? moved = Size.product? shape) : RefusedForOverflow moved sizes := by
  cases hshape : Size.product? shape with
  | none => exact ⟨moved, view_of_product?_eq_none (hproduct.trans hshape)⟩
  | some total =>
    obtain ⟨counted, hrefused⟩ := h
    refine ⟨counted, ?_⟩
    rw [view_quoting (hproduct.trans hshape) hshape, hrefused]
    rfl

/-- Where a shape can be counted, so can one that is refused no further views for an overflow. -/
lemma countsInRange_of_overflows_imp (h : ∀ n ∈ shape, 0 ≤ n) (hmoved : ∀ n ∈ moved, 0 ≤ n)
    (himp : ∀ sizes, RefusedForOverflow moved sizes → RefusedForOverflow shape sizes)
    (hcounts : Size.CountsInRange shape) : Size.CountsInRange moved := by
  by_contra hnot
  have hnone := (Size.product?_eq_none_iff_countsInRange hmoved).2 hnot
  exact not_overflows_self h hcounts (himp shape ⟨moved, view_of_product?_eq_none hnone⟩)

/-- The order of the axes makes no difference to an overflow exactly when both orders can be counted
or neither can. -/
lemma overflows_iff_of_perm (h : ∀ n ∈ shape, 0 ≤ n) (hperm : shape.Perm moved) :
    (∀ sizes, RefusedForOverflow shape sizes ↔ RefusedForOverflow moved sizes) ↔
      (Size.CountsInRange shape ↔ Size.CountsInRange moved) := by
  have hmoved : ∀ n ∈ moved, 0 ≤ n := fun n hn => h n (hperm.mem_iff.2 hn)
  constructor
  · intro hsame
    exact ⟨countsInRange_of_overflows_imp h hmoved fun sizes => (hsame sizes).2,
      countsInRange_of_overflows_imp hmoved h fun sizes => (hsame sizes).1⟩
  · intro hcounts sizes
    have hproduct := Size.product?_eq_of_perm h hperm hcounts
    exact ⟨fun hrefused => hrefused.of_product?_eq hproduct,
      fun hrefused => hrefused.of_product?_eq hproduct.symm⟩

/-- Sizes without a sign are counted as long as those in front of the first zero have a product in
range, and then the count is exact; otherwise every view of the shape is refused for its overflow.
The resolvers count as the host of shapes does.  Two orders of the same axes are refused the same
views for an overflow exactly when both orders can be counted or neither can, and then what the
resolvers make of a view does not depend on the order either.  Without a zero every order can be
counted, or none, according to the number of elements.  With a zero there is an order that can be
counted, whatever the other sizes are. -/
theorem overflows_in_front_of_zero (spec : String) (shape : List Size) (h : ∀ n ∈ shape, 0 ≤ n) :
    (∀ n, countElements shape = .ok n ↔
      Size.CountsInRange shape ∧ n.toInt = Size.exactProduct shape) ∧
    (¬Size.CountsInRange shape → ∀ sizes, view shape sizes = Checked.refuse (.overflow shape)) ∧
    Checked.ofExcept (Resolve.countElements spec shape) =
      (countElements shape).mapError (Fault.map fun _ => ⟨spec, .operand .elementCount⟩) ∧
    (∀ moved, shape.Perm moved →
      ((∀ sizes, RefusedForOverflow shape sizes ↔ RefusedForOverflow moved sizes) ↔
        (Size.CountsInRange shape ↔ Size.CountsInRange moved))) ∧
    (∀ (source target : Slots) (order : List Nat), source.Distinct →
      source.length = shape.length → source.OrderedBy order →
      (Size.CountsInRange shape ↔ Size.CountsInRange (readAt order shape)) →
        Resolve.view spec (Slots.renumbered (readAt order source)) target (readAt order shape) =
          Resolve.view spec source target shape) ∧
    (0 ∉ shape → ∀ moved, shape.Perm moved →
      (Size.CountsInRange moved ↔ Size.exactProduct shape < 2 ^ 63)) ∧
    (0 ∈ shape → ∃ moved, shape.Perm moved ∧ countElements moved = .ok 0) := by
  refine ⟨fun n => countElements_eq_ok_iff_countsInRange h, fun hcounts sizes => ?_,
    ofExcept_countElements spec shape, fun moved hperm => overflows_iff_of_perm h hperm, ?_,
    fun hzero moved hperm => Size.countsInRange_of_perm hzero hperm, fun hzero => ?_⟩
  · exact view_of_product?_eq_none ((Size.product?_eq_none_iff_countsInRange h).2 hcounts)
  · intro source target order hdistinct hlen horder hcounts
    have hperm : shape.Perm (readAt order shape) := (perm_readAt (hlen ▸ horder.perm)).symm
    exact Resolve.view_reordered_of_product?_eq horder.reordered_renumbered hdistinct hlen
      (Size.product?_eq_of_perm h hperm hcounts)
  · obtain ⟨moved, hperm, hmoved⟩ := Size.exists_perm_product?_eq_zero hzero
    exact ⟨moved, hperm, countElements_eq_ok_iff.2 hmoved⟩

/-- Three sizes without a zero overflow in both orders, and two orders of a shape with a zero do not
overflow alike; a view that leaves an axis to be inferred is resolved in either order. -/
theorem overflows_in_front_of_zero_either_order :
    let wide : Size := 4294967296
    let b : Expr := .var ⟨⟨"Batch", "b", none⟩, 0⟩
    let target : Slots := [.inferred, .expr (b.mul (.lit 2))]
    countElements [wide, 3] = .ok 12884901888 ∧
      view [wide, wide, 2] [-1] = Checked.refuse (.overflow [wide, wide, 2]) ∧
      RefusedForOverflow [2, wide, wide] [-1] ∧
      Resolve.view "_b" [.anonymous 0, .expr b] target [6, 4] = .ok [-1, 8] ∧
      Resolve.view "_b" [.expr b, .anonymous 0] target [4, 6] = .ok [-1, 8] ∧
      ¬(∀ sizes, RefusedForOverflow [wide, wide, 0] sizes ↔
        RefusedForOverflow [0, wide, wide] sizes) ∧
      ∃ moved, [wide, wide, 0].Perm moved ∧ countElements moved = .ok 0 := by
  intro wide b target
  obtain ⟨hcount, -⟩ := overflows_in_front_of_zero "_b" [wide, 3] (by simp [wide])
  obtain ⟨-, hrefused, -, halike, -, hpositive, -⟩ :=
    overflows_in_front_of_zero "_b" [wide, wide, 2] (by simp [wide])
  obtain ⟨-, -, -, -, hview, -⟩ := overflows_in_front_of_zero "_b" [6, 4] (by simp)
  obtain ⟨-, -, -, hdiffer, -, -, hzero⟩ :=
    overflows_in_front_of_zero "_b" [wide, wide, 0] (by simp [wide])
  have hperm : [wide, wide, 2].Perm [2, wide, wide] := by decide
  have hcounts : Size.CountsInRange [wide, wide, 2] ↔ Size.CountsInRange [2, wide, wide] :=
    (hpositive (by decide) _ (.refl _)).trans (hpositive (by decide) _ hperm).symm
  have hoverflows : view [wide, wide, 2] [-1] = Checked.refuse (.overflow [wide, wide, 2]) :=
    hrefused (by decide) [-1]
  have hdistinct : Slots.Distinct [.anonymous 0, .expr b] := by
    unfold Slots.Distinct
    decide
  have hresolved : Resolve.view "_b" [.anonymous 0, .expr b] target [6, 4] = .ok [-1, 8] := by
    decide +kernel
  have hmoved : Resolve.view "_b" [.expr b, .anonymous 0] target [4, 6] = .ok [-1, 8] :=
    (hview _ target [1, 0] hdistinct rfl ⟨by decide, by decide⟩ (by decide)).trans hresolved
  refine ⟨(hcount _).2 ⟨by decide, by decide⟩, hoverflows,
    ((halike _ hperm).2 hcounts _).1 ⟨_, hoverflows⟩, hresolved, hmoved, fun hsame => ?_,
    hzero (by decide)⟩
  exact absurd ((hdiffer _ (by decide)).1 hsame) (by decide)

/-- A shape without elements is refused for the number of its elements, by the host of shapes and by
the resolvers, and with its zero in front it is not. -/
theorem refused_without_elements :
    let wide : Size := 4294967296
    let late : List Size := [wide, wide, 0]
    let early : List Size := [0, wide, wide]
    (∀ n ∈ late, 0 ≤ n) ∧ Size.exactProduct late = 0 ∧ late.Perm early ∧
      countElements late = Checked.refuse (.overflow late) ∧
      Resolve.countElements "_ _ _" late = .error ⟨"_ _ _", .operand .elementCount⟩ ∧
      countElements early = .ok 0 ∧ Resolve.countElements "_ _ _" early = .ok 0 ∧
      view late [0] = Checked.refuse (.overflow late) ∧ view early [0] = .ok [0] := by
  intro wide late early
  refine ⟨by simp [late, wide], ?_⟩
  decide +kernel

end ShapeHost

end Warp

end ShapeAlgebra
