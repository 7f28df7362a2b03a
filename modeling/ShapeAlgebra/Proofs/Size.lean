import Mathlib.Algebra.BigOperators.Group.List.Basic
import Mathlib.Algebra.BigOperators.Ring.List
import Mathlib.Algebra.Order.BigOperators.GroupWithZero.List
import Mathlib.Algebra.Order.Ring.Int
import ShapeAlgebra.Proofs.Outcome
import ShapeAlgebra.Size

/-!
# Sizes and the integers

What the arithmetic of sizes says about the integers that sizes stand for.  A product of sizes
that is a size is the exact product, and it is a size as long as no product on the way to it leaves
the range.  A quotient traps on the divisor zero and on the one quotient
that leaves the range, that of the least size by `-1`; everywhere else quotient and remainder are
those of the integers, truncated toward zero.  The floor division is one of the exact operations;
taken in the steps of the machine, by a truncated quotient and a remainder, it comes to the same and
never traps.
-/

namespace ShapeAlgebra.Size

variable {ε : Type}

/-! ## Order -/

/-- A size is not negative if its number is not. -/
lemma nonneg_iff {n : Size} : 0 ≤ n ↔ 0 ≤ n.toInt := by
  rw [Int64.le_iff_toInt_le, Int64.toInt_zero]

/-- A size is positive if its number is. -/
lemma pos_iff {n : Size} : 0 < n ↔ 0 < n.toInt := by
  rw [Int64.lt_iff_toInt_lt, Int64.toInt_zero]

/-- A size is zero if its number is. -/
lemma eq_zero_iff {n : Size} : n = 0 ↔ n.toInt = 0 := by
  rw [← Int64.toInt_inj, Int64.toInt_zero]

/-- The mark `-1` stands for the number `-1`. -/
lemma toInt_neg_one : (-1 : Size).toInt = -1 := rfl

/-- A size is the mark `-1` if its number is `-1`. -/
lemma eq_neg_one_iff {n : Size} : n = -1 ↔ n.toInt = -1 := by
  rw [← Int64.toInt_inj, toInt_neg_one]

/-- A size without a sign is not the mark of an axis to be inferred. -/
lemma ne_neg_one_of_nonneg {n : Size} (h : 0 ≤ n) : n ≠ -1 := by
  rw [nonneg_iff] at h
  rw [Ne, eq_neg_one_iff]
  omega

/-! ## Exact products -/

/-- The product of `sizes` in the integers. -/
def exactProduct (sizes : List Size) : Int := (sizes.map Int64.toInt).prod

@[simp]
lemma exactProduct_nil : exactProduct [] = 1 := rfl

@[simp]
lemma exactProduct_cons (n : Size) (sizes : List Size) :
    exactProduct (n :: sizes) = n.toInt * exactProduct sizes := by
  simp [exactProduct]

@[simp]
lemma exactProduct_append (sizes more : List Size) :
    exactProduct (sizes ++ more) = exactProduct sizes * exactProduct more := by
  simp [exactProduct]

/-- The exact product does not depend on the order of the sizes. -/
lemma exactProduct_eq_of_perm {sizes sizes' : List Size} (h : sizes.Perm sizes') :
    exactProduct sizes = exactProduct sizes' :=
  (h.map Int64.toInt).prod_eq

/-- Sizes without a sign have a product without a sign. -/
lemma exactProduct_nonneg {sizes : List Size} (h : ∀ n ∈ sizes, 0 ≤ n) :
    0 ≤ exactProduct sizes := by
  refine List.prod_nonneg fun i hi => ?_
  obtain ⟨n, hn, rfl⟩ := List.mem_map.1 hi
  exact nonneg_iff.1 (h n hn)

/-- A product that is taken onto `start` and stays within the sizes is exact. -/
lemma toInt_of_productFrom?_eq_some {start n : Size} {sizes : List Size}
    (h : productFrom? start sizes = some n) : n.toInt = start.toInt * exactProduct sizes := by
  induction sizes generalizing start with
  | nil =>
    obtain rfl := Option.some.inj h
    simp
  | cons s sizes ih =>
    rw [productFrom?_cons] at h
    obtain ⟨p, hp, hrest⟩ := Option.bind_eq_some_iff.1 h
    rw [ih hrest, mul?_eq_some_iff.1 hp, exactProduct_cons, Int.mul_assoc]

/-- A product that stays within the sizes is exact. -/
lemma toInt_of_product?_eq_some {n : Size} {sizes : List Size} (h : product? sizes = some n) :
    n.toInt = exactProduct sizes := by
  rw [toInt_of_productFrom?_eq_some h]
  change 1 * exactProduct sizes = exactProduct sizes
  exact Int.one_mul _

/-- A product of sizes without a sign has no sign. -/
lemma nonneg_of_product?_eq_some {n : Size} {sizes : List Size} (h : product? sizes = some n)
    (hsizes : ∀ s ∈ sizes, 0 ≤ s) : 0 ≤ n := by
  rw [nonneg_iff, toInt_of_product?_eq_some h]
  exact exactProduct_nonneg hsizes

/-! ## Products that stay in range -/

/-- The product of `sizes`, taken from left to right, stays within 64 bits all the way. -/
def StaysInRange (sizes : List Size) : Prop :=
  ∀ count, -2 ^ 63 ≤ exactProduct (sizes.take count) ∧ exactProduct (sizes.take count) < 2 ^ 63

/-- The product of sizes whose partial products stay in range is in range itself. -/
lemma StaysInRange.exactProduct_lt {sizes : List Size} (h : StaysInRange sizes) :
    exactProduct sizes < 2 ^ 63 := by
  have hall := h sizes.length
  rw [List.take_length] at hall
  exact hall.2

/-- A product taken onto `start` is a size when all the products on the way are in range. -/
lemma exists_productFrom?_iff {start : Size} {sizes : List Size} :
    (∃ n, productFrom? start sizes = some n) ↔
      ∀ count, -2 ^ 63 ≤ start.toInt * exactProduct (sizes.take count) ∧
        start.toInt * exactProduct (sizes.take count) < 2 ^ 63 := by
  have hstart : -2 ^ 63 ≤ start.toInt ∧ start.toInt < 2 ^ 63 := ⟨start.le_toInt, start.toInt_lt⟩
  induction sizes generalizing start with
  | nil => simpa using hstart
  | cons s sizes ih =>
    constructor
    · rintro ⟨n, hn⟩ count
      obtain ⟨p, hp, hrest⟩ := Option.bind_eq_some_iff.1 hn
      cases count with
      | zero => simpa using hstart
      | succ count =>
        have hcount := ih ⟨p.le_toInt, p.toInt_lt⟩ |>.1 ⟨n, hrest⟩ count
        rwa [mul?_eq_some_iff.1 hp, Int.mul_assoc, ← exactProduct_cons] at hcount
    · intro h
      have hfirst := h 1
      rw [List.take_succ_cons, List.take_zero, exactProduct_cons, exactProduct_nil,
        Int.mul_one] at hfirst
      have hp : (Int64.ofInt (start.toInt * s.toInt)).toInt = start.toInt * s.toInt :=
        Int64.toInt_ofInt_of_le hfirst.1 hfirst.2
      obtain ⟨n, hn⟩ := (ih ⟨Int64.le_toInt _, Int64.toInt_lt _⟩).2 fun count => by
        rw [hp, Int.mul_assoc, ← exactProduct_cons, ← List.take_succ_cons]
        exact h (count + 1)
      exact ⟨n, Option.bind_eq_some_iff.2 ⟨_, mul?_eq_some_iff.2 hp, hn⟩⟩

/-- There is a product when it stays in range. -/
lemma exists_product?_iff {sizes : List Size} :
    (∃ n, product? sizes = some n) ↔ StaysInRange sizes := by
  refine exists_productFrom?_iff.trans ?_
  simp only [Int64.toInt_one, Int.one_mul]
  rfl

/-- The checked product has a value if all partial products stay in range, and it is the exact one.
-/
lemma product?_eq_some_iff {sizes : List Size} {n : Size} :
    product? sizes = some n ↔ StaysInRange sizes ∧ n.toInt = exactProduct sizes := by
  constructor
  · exact fun h => ⟨exists_product?_iff.1 ⟨n, h⟩, toInt_of_product?_eq_some h⟩
  · rintro ⟨hrange, hn⟩
    obtain ⟨m, hm⟩ := exists_product?_iff.2 hrange
    have hsame : m = n := by
      rw [← Int64.toInt_inj, toInt_of_product?_eq_some hm, hn]
    rw [hm, hsame]

/-- Positive sizes have a positive product. -/
lemma exactProduct_pos {sizes : List Size} (h : ∀ n ∈ sizes, 0 < n) : 0 < exactProduct sizes := by
  refine List.prod_pos fun i hi => ?_
  obtain ⟨n, hn, rfl⟩ := List.mem_map.1 hi
  exact pos_iff.1 (h n hn)

/-- A zero among the sizes makes their product zero. -/
lemma exactProduct_eq_zero {sizes : List Size} (h : 0 ∈ sizes) : exactProduct sizes = 0 :=
  List.prod_eq_zero (List.mem_map.2 ⟨0, h, rfl⟩)

/-- Sizes without a sign are positive if none of them is zero. -/
lemma pos_of_nonneg {sizes : List Size} (h : ∀ n ∈ sizes, 0 ≤ n) (hzero : 0 ∉ sizes) :
    ∀ n ∈ sizes, 0 < n := by
  intro n hn
  have hne : n ≠ 0 := fun heq => hzero (heq ▸ hn)
  have hnonneg := nonneg_iff.1 (h n hn)
  rw [Ne, eq_zero_iff] at hne
  rw [pos_iff]
  omega

/-- Sizes without a sign are positive when their product is. -/
lemma pos_of_exactProduct_pos {sizes : List Size} (h : ∀ n ∈ sizes, 0 ≤ n)
    (hpos : 0 < exactProduct sizes) : ∀ n ∈ sizes, 0 < n :=
  pos_of_nonneg h fun hzero => hpos.ne' (exactProduct_eq_zero hzero)

/-- The first of some positive sizes have no larger product than all of them. -/
lemma exactProduct_take_le {sizes : List Size} (h : ∀ n ∈ sizes, 0 < n) (count : Nat) :
    exactProduct (sizes.take count) ≤ exactProduct sizes := by
  have htake : 0 < exactProduct (sizes.take count) :=
    exactProduct_pos fun n hn => h n (List.mem_of_mem_take hn)
  have hdrop : 0 < exactProduct (sizes.drop count) :=
    exactProduct_pos fun n hn => h n (List.mem_of_mem_drop hn)
  calc exactProduct (sizes.take count)
      = exactProduct (sizes.take count) * 1 := (Int.mul_one _).symm
    _ ≤ exactProduct (sizes.take count) * exactProduct (sizes.drop count) :=
        Int.mul_le_mul_of_nonneg_left hdrop htake.le
    _ = exactProduct sizes := by rw [← exactProduct_append, List.take_append_drop]

/-- One more size among positive ones leaves their product in range if the whole product is: what
is taken before it has been taken without it, and what is taken behind it is no more than the
whole. -/
lemma StaysInRange.insert {before after : List Size} {n : Size}
    (h : StaysInRange (before ++ after)) (hpos : ∀ s ∈ before ++ after, 0 < s) (hn : 0 ≤ n)
    (hlt : n.toInt * exactProduct (before ++ after) < 2 ^ 63) :
    StaysInRange (before ++ n :: after) := by
  intro count
  rcases Nat.lt_or_ge before.length count with hmore | hle
  · obtain ⟨k, rfl⟩ := Nat.exists_eq_add_of_lt hmore
    have htake : exactProduct ((before ++ n :: after).take (before.length + k + 1)) =
        n.toInt * exactProduct ((before ++ after).take (before.length + k)) := by
      rw [Nat.add_assoc, List.take_length_add_append, List.take_length_add_append,
        List.take_succ_cons, exactProduct_append, exactProduct_append, exactProduct_cons]
      ac_rfl
    have hnonneg : 0 ≤ exactProduct ((before ++ after).take (before.length + k)) :=
      (exactProduct_pos fun s hs => hpos s (List.mem_of_mem_take hs)).le
    have hbelow := Int.mul_le_mul_of_nonneg_left
      (exactProduct_take_le hpos (before.length + k)) (nonneg_iff.1 hn)
    have hsign := Int.mul_nonneg (nonneg_iff.1 hn) hnonneg
    rw [htake]
    omega
  · have hcount := h count
    rwa [List.take_append_of_le_length hle] at hcount ⊢

/-! ## Division -/

/-- The quotient of two sizes is a size, but for that of the least size by `-1`. -/
lemma ofInt?_tdiv_ne_none {a b : Size} (h : b ≠ -1 ∨ a ≠ Int64.minValue) :
    ofInt? (a.toInt.tdiv b.toInt) ≠ none := by
  rw [Ne, ofInt?_eq_none_iff, Int64.toInt_minValue, Int64.toInt_maxValue]
  have hle := Int.natAbs_tdiv_le_natAbs a.toInt b.toInt
  have hmin := a.le_toInt
  have hmax := a.toInt_lt
  -- only the positive end of the range can be missed, and only by the least size itself
  by_cases ha : a.toInt = -2 ^ 63
  · have hb : b.toInt ≠ -1 := by
      rw [Ne, ← eq_neg_one_iff]
      refine h.resolve_right fun hne => hne ?_
      rw [← Int64.toInt_inj, ha, Int64.toInt_minValue]
    have habs : (a.toInt.tdiv b.toInt).natAbs = a.toInt.natAbs / b.toInt.natAbs :=
      Int.natAbs_tdiv a.toInt b.toInt
    rcases Int.lt_or_le b.toInt 0 with hneg | hnonneg
    · have htwo : 2 ≤ b.toInt.natAbs := by omega
      have hhalf : a.toInt.natAbs / b.toInt.natAbs ≤ a.toInt.natAbs / 2 :=
        Nat.div_le_div_left htwo (by decide)
      omega
    · have hquot : 0 ≤ (-a.toInt).tdiv b.toInt := Int.tdiv_nonneg (by omega) hnonneg
      rw [Int.neg_tdiv] at hquot
      omega
  · omega

/-- The quotient of two sizes is that of the integers. -/
lemma quotient_eq_ok_iff {a b q : Size} :
    (quotient a b : Checked ε Size) = .ok q ↔ b ≠ 0 ∧ q.toInt = a.toInt.tdiv b.toInt := by
  unfold quotient
  split
  · rename_i hb
    simp [hb]
  · rename_i hb
    split
    · rename_i n hn
      rw [ofInt?_eq_some_iff] at hn
      rw [Except.ok.injEq, ← Int64.toInt_inj, hn, eq_comm]
      exact (and_iff_right hb).symm
    · rename_i hnone
      rw [ofInt?_eq_none_iff] at hnone
      simp only [trap_ne_ok, false_iff, not_and]
      intro _ hq
      have hmin := q.minValue_le_toInt
      have hmax := q.toInt_le
      omega

/-- A quotient traps on the divisor zero and on that of the least size by `-1`, and nowhere
else. -/
lemma meets_quotient {a b : Size} {cause : ε → Prop} {trapped : Prop}
    (h : b = 0 ∨ b = -1 ∧ a = Int64.minValue → trapped) :
    Meets (quotient a b) (fun q => b ≠ 0 ∧ q.toInt = a.toInt.tdiv b.toInt)
      (Fault.Within cause trapped) := by
  by_cases htrap : b = 0 ∨ b = -1 ∧ a = Int64.minValue
  · refine (meets_self _).imp (fun q => quotient_eq_ok_iff.1) fun fault hfault => ?_
    unfold quotient at hfault
    split at hfault
    · obtain rfl := Except.error.inj hfault
      exact h htrap
    · split at hfault
      · cases hfault
      · obtain rfl := Except.error.inj hfault
        exact h htrap
  · rw [not_or, not_and_or] at htrap
    obtain ⟨q, hq⟩ := Option.ne_none_iff_exists'.1 (ofInt?_tdiv_ne_none htrap.2)
    have hquot : b ≠ 0 ∧ q.toInt = a.toInt.tdiv b.toInt :=
      ⟨htrap.1, ofInt?_eq_some_iff.1 hq⟩
    rw [quotient_eq_ok_iff.2 hquot]
    exact hquot

/-- A remainder traps when the quotient does, and is that of the integers otherwise. -/
lemma meets_remainder {a b : Size} {cause : ε → Prop} {trapped : Prop}
    (h : b = 0 ∨ b = -1 ∧ a = Int64.minValue → trapped) :
    Meets (remainder a b) (fun r => b ≠ 0 ∧ r.toInt = a.toInt.tmod b.toInt)
      (Fault.Within cause trapped) := by
  refine (meets_quotient h).bind fun _ hquot => ⟨hquot.1, ?_⟩
  have hb : b.toInt.natAbs ≠ 0 := by
    rw [Ne, Int.natAbs_eq_zero, ← eq_zero_iff]
    exact hquot.1
  have habs := Int.natAbs_tmod a.toInt b.toInt
  have hlt := Nat.mod_lt a.toInt.natAbs (Nat.pos_of_ne_zero hb)
  have hmin := b.le_toInt
  have hmax := b.toInt_lt
  exact Int64.toInt_ofInt_of_le (by omega) (by omega)

/-- Where there is a quotient there is a remainder. -/
lemma exists_remainder {a b q : Size} (hb : b ≠ 0) (hq : q.toInt = a.toInt.tdiv b.toInt) :
    ∃ r, (remainder a b : Checked ε Size) = .ok r ∧ r.toInt = a.toInt.tmod b.toInt := by
  have hrem : (remainder a b : Checked ε Size) = .ok (Int64.ofInt (a.toInt.tmod b.toInt)) := by
    rw [remainder, quotient_eq_ok_iff.2 ⟨hb, hq⟩]
    rfl
  have hcontract : Meets (remainder a b : Checked ε Size)
      (fun r => b ≠ 0 ∧ r.toInt = a.toInt.tmod b.toInt) (Fault.Within (fun _ => True) True) :=
    meets_remainder fun _ => trivial
  exact ⟨_, hrem, (hcontract.post_of_eq_ok hrem).2⟩

/-- A division comes out even when the divisor times the quotient is the dividend. -/
lemma exact_division_iff {a b q : Size} :
    (remainder a b : Checked ε Size) = .ok 0 ∧ (quotient a b : Checked ε Size) = .ok q ↔
      b ≠ 0 ∧ q.toInt * b.toInt = a.toInt := by
  rw [quotient_eq_ok_iff]
  constructor
  · rintro ⟨hrem, hb, hq⟩
    obtain ⟨r, hr, hmod⟩ := exists_remainder (ε := ε) hb hq
    rw [hrem] at hr
    rw [← Except.ok.inj hr, Int64.toInt_zero] at hmod
    exact ⟨hb, hq ▸ Int.tdiv_mul_cancel_of_tmod_eq_zero hmod.symm⟩
  · rintro ⟨hb, hproduct⟩
    have hzero : b.toInt ≠ 0 := fun h => hb (eq_zero_iff.2 h)
    have hq : q.toInt = a.toInt.tdiv b.toInt := by
      rw [← hproduct, Int.mul_tdiv_cancel _ hzero]
    obtain ⟨r, hr, hmod⟩ := exists_remainder (ε := ε) hb hq
    have hr0 : r = 0 := by
      rw [eq_zero_iff, hmod, ← hproduct]
      exact Int.mul_tmod_left _ _
    exact ⟨hr0 ▸ hr, hb, hq⟩

/-- A positive size divides without a trap. -/
lemma not_trapped_of_pos {a b : Size} (hb : 0 < b) : ¬(b = 0 ∨ b = -1 ∧ a = Int64.minValue) := by
  rw [pos_iff] at hb
  rw [eq_zero_iff, eq_neg_one_iff]
  omega

/-! ## Floor division in machine steps -/

/-- The floor division of `a` by `b` as the machine takes it: the truncated quotient where there is
one, less one when the remainder is not zero and the signs differ. -/
def floorDivByQuotient (a b : Size) : Checked ε (Option Size) :=
  if b = 0 then .ok none
  else match ofInt? (a.toInt.tdiv b.toInt) with
    | none => .ok none
    | some q => do
      let rest ← remainder a b
      if rest ≠ 0 ∧ (a < 0 ↔ ¬b < 0) then
        match sub? q 1 with
        | some n => .ok (some n)
        | none => Checked.trap .overflow
      else .ok (some q)

/-- A size is negative if its number is. -/
lemma neg_iff {n : Size} : n < 0 ↔ n.toInt < 0 := by
  rw [Int64.lt_iff_toInt_lt, Int64.toInt_zero]

/-- The floor of an exact quotient is the quotient. -/
lemma fdiv_eq_tdiv_of_tmod_eq_zero {a b : Int} (h : a.tmod b = 0) : a.fdiv b = a.tdiv b := by
  have hdvd : b ∣ a := Int.dvd_of_tmod_eq_zero h
  rw [Int.fdiv_eq_tdiv, if_pos hdvd, Int.sub_zero]

/-- The floor of an inexact quotient is the integer before it when the signs differ. -/
lemma fdiv_eq_tdiv_of_tmod_ne_zero {a b : Int} (hb : b ≠ 0) (h : a.tmod b ≠ 0) :
    a.fdiv b = a.tdiv b - if a < 0 ↔ ¬b < 0 then 1 else 0 := by
  have hdvd : ¬b ∣ a := fun hdvd => h (Int.tmod_eq_zero_of_dvd hdvd)
  rw [Int.fdiv_eq_tdiv, if_neg hdvd]
  rcases Int.lt_or_gt_of_ne hb with hneg | hpos
  · have hsign : b.sign = -1 := Int.sign_eq_neg_one_of_neg hneg
    rw [hsign]
    split_ifs <;> omega
  · have hsign : b.sign = 1 := Int.sign_eq_one_of_pos hpos
    rw [hsign]
    split_ifs <;> omega

/-- An inexact quotient is not the least size, so there is a size before it. -/
lemma exists_sub?_one {a b q : Size} (hb : b ≠ 0) (hq : q.toInt = a.toInt.tdiv b.toInt)
    (h : a.toInt.tmod b.toInt ≠ 0) : ∃ n, sub? q 1 = some n := by
  refine Option.ne_none_iff_exists'.1 fun hnone => ?_
  rw [sub?, ofInt?_eq_none_iff, Int64.toInt_minValue, Int64.toInt_maxValue,
    Int64.toInt_one] at hnone
  have hone : b.toInt.natAbs ≠ 1 := by
    intro habs
    refine h (Int.natAbs_eq_zero.1 ?_)
    rw [Int.natAbs_tmod, habs, Nat.mod_one]
  rw [Ne, eq_zero_iff] at hb
  have hhalf : a.toInt.natAbs / b.toInt.natAbs ≤ a.toInt.natAbs / 2 :=
    Nat.div_le_div_left (by omega) (by decide)
  have habs : q.toInt.natAbs = a.toInt.natAbs / b.toInt.natAbs := by
    rw [hq]
    exact Int.natAbs_tdiv a.toInt b.toInt
  have hmin := a.le_toInt
  have hmax := a.toInt_lt
  have hqmax := q.toInt_lt
  omega

/-- The steps of the machine never trap, and end with the floor division. -/
theorem floorDivByQuotient_eq (a b : Size) :
    (floorDivByQuotient a b : Checked ε (Option Size)) = .ok (floorDiv? a b) := by
  unfold floorDivByQuotient floorDiv?
  split
  · rfl
  · rename_i hb
    have hdivisor : b.toInt ≠ 0 := fun hzero => hb (eq_zero_iff.2 hzero)
    split
    · rename_i hnone
      -- there is no quotient only for the least size by -1, and then both sides are evaluated
      have hleast : b = -1 ∧ a = Int64.minValue := by
        by_contra hnot
        exact ofInt?_tdiv_ne_none (not_and_or.1 hnot) hnone
      obtain ⟨rfl, rfl⟩ := hleast
      rfl
    · rename_i q hq
      have htdiv : q.toInt = a.toInt.tdiv b.toInt := ofInt?_eq_some_iff.1 hq
      obtain ⟨r, hr, hmod⟩ := exists_remainder (ε := ε) hb htdiv
      have hcondition : (r ≠ 0 ∧ (a < 0 ↔ ¬b < 0)) ↔
          (a.toInt.tmod b.toInt ≠ 0 ∧ (a.toInt < 0 ↔ ¬b.toInt < 0)) := by
        rw [Ne, eq_zero_iff, hmod, neg_iff, neg_iff]
      rw [hr]
      change (if r ≠ 0 ∧ (a < 0 ↔ ¬b < 0) then _ else _) = _
      split
      · rename_i hif
        -- there is a remainder and the signs differ: the machine goes down by one
        have hdiffer := hcondition.1 hif
        obtain ⟨n, hn⟩ := exists_sub?_one hb htdiv hdiffer.1
        have hfdiv : a.toInt.fdiv b.toInt = n.toInt := by
          rw [fdiv_eq_tdiv_of_tmod_ne_zero hdivisor hdiffer.1, if_pos hdiffer.2, ← htdiv,
            sub?_eq_some_iff.1 hn]
          rfl
        rw [hn, hfdiv, ofInt?_toInt]
      · rename_i hif
        -- the quotient is exact, or cutting off is rounding down
        have hsame := mt hcondition.2 hif
        have hfdiv : a.toInt.fdiv b.toInt = q.toInt := by
          rw [htdiv]
          by_cases hzero : a.toInt.tmod b.toInt = 0
          · exact fdiv_eq_tdiv_of_tmod_eq_zero hzero
          · rw [fdiv_eq_tdiv_of_tmod_ne_zero hdivisor hzero,
              if_neg fun hsigns => hsame ⟨hzero, hsigns⟩, Int.sub_zero]
        rw [hfdiv, ofInt?_toInt]

end ShapeAlgebra.Size
