/-!
# Faults

A computation of this library ends in one of three ways: with a value, with a refusal that
names its cause, or at a trap.  A trap is the machine giving up (an index past the end, a
remainder that the word cannot hold), and it is kept apart from a refusal so that the two can
be told apart in a statement: a theorem that a function never traps says something.

What becomes of a sum or a product that does not fit in its word is settled when a program is built:
it is a trap, or it wraps around.  Where that matters, a computation asks for it.
-/

namespace ShapeAlgebra

/-! ## Traps -/

/-- The ways in which the machine gives up. -/
inductive Trap where
  /-- An element was read past the end of its list. -/
  | outOfRange
  /-- A quotient or a remainder was asked for with the divisor zero. -/
  | divisionByZero
  /-- A result does not fit in its word. -/
  | overflow
  deriving DecidableEq, Repr

/-- What becomes of a sum or a product that does not fit in its word. -/
inductive Overflow where
  | traps
  | wraps
  deriving DecidableEq, Repr

/-- What ends a computation early: a refusal with its cause, or a trap. -/
inductive Fault (ε : Type) where
  | refusal (cause : ε)
  | trap (trap : Trap)
  deriving DecidableEq, Repr

/-- A computation that may be refused with a cause in `ε`, or may trap. -/
abbrev Checked (ε α : Type) := Except (Fault ε) α

namespace Fault

/-- The same fault with `f` applied to the cause of a refusal; a trap has no cause. -/
def map {ε δ : Type} (f : ε → δ) : Fault ε → Fault δ
  | .refusal cause => .refusal (f cause)
  | .trap t => .trap t

@[simp]
theorem map_refusal {ε δ : Type} (f : ε → δ) (cause : ε) :
    (Fault.refusal cause).map f = .refusal (f cause) := rfl

@[simp]
theorem map_trap {ε δ : Type} (f : ε → δ) (t : Trap) :
    (Fault.trap t : Fault ε).map f = .trap t := rfl

end Fault

/-! ## Computations that may trap -/

namespace Checked

variable {ε α : Type}

/-- The computation that is refused with `cause`. -/
def refuse (cause : ε) : Checked ε α := .error (.refusal cause)

/-- The computation that ends at the trap `t`. -/
def trap (t : Trap) : Checked ε α := .error (.trap t)

/-- A computation that cannot trap, as one that may. -/
def ofExcept : Except ε α → Checked ε α
  | .ok a => .ok a
  | .error cause => refuse cause

@[simp]
theorem ofExcept_ok (a : α) : (ofExcept (.ok a) : Checked ε α) = .ok a := rfl

@[simp]
theorem ofExcept_error (cause : ε) :
    (ofExcept (.error cause) : Checked ε α) = .error (.refusal cause) := rfl

/-- The element of `xs` at `index`, a trap past the end. -/
def elementAt (xs : List α) (index : Nat) : Checked ε α :=
  match xs[index]? with
  | some a => .ok a
  | none => trap .outOfRange

/-- The result of an operation: `exact` if there is one, and otherwise what the build makes of
that, where `wrapped` is the result that has wrapped around. -/
def settle (o : Overflow) (exact : Option α) (wrapped : α) : Checked ε α :=
  match exact, o with
  | some a, _ => .ok a
  | none, .wraps => .ok wrapped
  | none, .traps => trap .overflow

/-- Reading an element has a value where the list has an element, and it is that one. -/
theorem elementAt_eq_ok_iff {xs : List α} {index : Nat} {a : α} :
    (elementAt xs index : Checked ε α) = .ok a ↔ xs[index]? = some a := by
  unfold elementAt
  cases xs[index]? <;> simp [trap]

end Checked

end ShapeAlgebra
