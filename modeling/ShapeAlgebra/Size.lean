import ShapeAlgebra.Fault

/-!
# Sizes

A size is a signed 64-bit word.  The arithmetic on sizes is exact or absent: `add?`, `sub?`,
`mul?` and `floorDiv?` compute in the integers and answer only when the result is again a
size, so no result ever wraps.  `quotient` and `remainder` truncate toward zero; they have no
cause to refuse with, and so they trap where the machine does.
-/

namespace ShapeAlgebra

/-- The size of an axis, or a number standing for one: a signed 64-bit word. -/
abbrev Size := Int64

namespace Size

/-! ## Sizes among the integers -/

/-- The size of value `n`, if `n` lies in the signed 64-bit range. -/
def ofInt? (n : Int) : Option Size :=
  if Int64.minValue.toInt ≤ n ∧ n ≤ Int64.maxValue.toInt then some (Int64.ofInt n) else none

/-- `ofInt?` answers with the size of that value, and with nothing else. -/
theorem ofInt?_eq_some_iff {n : Int} {s : Size} : ofInt? n = some s ↔ s.toInt = n := by
  unfold ofInt?
  constructor
  · intro h
    split at h
    · rename_i range
      obtain rfl := Option.some.inj h
      exact Int64.toInt_ofInt_of_le range.1 (Int.lt_add_one_of_le range.2)
    · cases h
  · rintro rfl
    rw [if_pos ⟨s.minValue_le_toInt, s.toInt_le⟩, Int64.ofInt_toInt]

@[simp]
theorem ofInt?_toInt (s : Size) : ofInt? s.toInt = some s := ofInt?_eq_some_iff.2 rfl

/-- `ofInt?` is silent exactly outside the signed 64-bit range. -/
theorem ofInt?_eq_none_iff {n : Int} :
    ofInt? n = none ↔ n < Int64.minValue.toInt ∨ Int64.maxValue.toInt < n := by
  unfold ofInt?
  split <;> simp only [reduceCtorEq, false_iff, true_iff] <;> omega

/-- The size of value `n` modulo `2 ^ 64`. -/
def wrapping (n : Int) : Size := Int64.ofInt n

/-! ## Exact arithmetic -/

/-- The sum of two sizes, if it is a size. -/
def add? (a b : Size) : Option Size := ofInt? (a.toInt + b.toInt)

/-- The difference of two sizes, if it is a size. -/
def sub? (a b : Size) : Option Size := ofInt? (a.toInt - b.toInt)

/-- The product of two sizes, if it is a size. -/
def mul? (a b : Size) : Option Size := ofInt? (a.toInt * b.toInt)

/-- The quotient of two sizes rounded toward negative infinity, if the divisor is not zero and
the quotient is a size. -/
def floorDiv? (a b : Size) : Option Size :=
  if b = 0 then none else ofInt? (a.toInt.fdiv b.toInt)

/-- The checked sum has a value if the exact one is a size, and it is that one. -/
theorem add?_eq_some_iff {a b s : Size} : add? a b = some s ↔ s.toInt = a.toInt + b.toInt :=
  ofInt?_eq_some_iff

/-- The checked difference has a value if the exact one is a size, and it is that one. -/
theorem sub?_eq_some_iff {a b s : Size} : sub? a b = some s ↔ s.toInt = a.toInt - b.toInt :=
  ofInt?_eq_some_iff

/-- The checked product has a value if the exact one is a size, and it is that one. -/
theorem mul?_eq_some_iff {a b s : Size} : mul? a b = some s ↔ s.toInt = a.toInt * b.toInt :=
  ofInt?_eq_some_iff

/-- The checked floor division has a value if the divisor is not zero and the exact quotient,
rounded down, is a size, and it is that one. -/
theorem floorDiv?_eq_some_iff {a b s : Size} :
    floorDiv? a b = some s ↔ b ≠ 0 ∧ s.toInt = a.toInt.fdiv b.toInt := by
  unfold floorDiv?
  split <;> simp_all [ofInt?_eq_some_iff]

/-- The product of `sizes` taken from left to right onto `start`, if every partial product is a
size. -/
def productFrom? (start : Size) (sizes : List Size) : Option Size :=
  sizes.foldlM mul? start

/-- The product of `sizes`, `1` when there are none, if every partial product taken from left to
right is a size. -/
def product? (sizes : List Size) : Option Size := productFrom? 1 sizes

@[simp]
theorem productFrom?_nil (start : Size) : productFrom? start [] = some start := rfl

@[simp]
theorem productFrom?_cons (start s : Size) (sizes : List Size) :
    productFrom? start (s :: sizes) = (mul? start s).bind fun p => productFrom? p sizes := rfl

/-! ## Truncated division -/

/-- The quotient of `a` by `b` truncated toward zero. -/
def quotient {ε : Type} (a b : Size) : Checked ε Size :=
  if b = 0 then .trap .divisionByZero
  else match ofInt? (a.toInt.tdiv b.toInt) with
    | some q => .ok q
    | none => .trap .overflow

/-- The remainder of `a` by `b`, of the sign of `a`.  It is computed together with the quotient,
so it traps whenever the quotient does. -/
def remainder {ε : Type} (a b : Size) : Checked ε Size := do
  let _ ← quotient a b
  .ok (Int64.ofInt (a.toInt.tmod b.toInt))

/-! ## Text -/

/-- The decimal digits of a size, after a minus sign if it is negative. -/
def text (s : Size) : String := toString s.toInt

end Size

end ShapeAlgebra
