import ShapeAlgebra.Arith.Token

/-!
# Reading slot arithmetic

The grammar has three levels.  A sum is a sequence of products joined by `+` and `-`; a product
is a sequence of factors joined by `*`, `//` and `/`; a factor is an identifier, a number or a
sum in parentheses, after any number of minus signs.  Operators of one level group to the left.

The reader takes one token at a time.  Its state holds, for every parenthesis that is still
open, what stands to the left of the place being read: the sum so far and its operator, the
product so far and its operator, and the minus signs.  In between it either awaits an operand or
has just completed one, and which tokens may come depends on that alone.

A grammar put together from smaller ones says the same as follows, rule by rule.

* An atom is a choice of an integer, an identifier and the whole grammar delimited by parentheses,
  padded with blanks: here the three kinds of token that complete an operand, where an opening
  parenthesis sets a fresh frame on top of those outside, and a closing one takes it off again.
* A factor is a padded minus sign, repeated, and folded from the right over an atom: here the count
  `negations`, and `negated`, which puts that many negations around the operand.
* A product is a fold from the left over factors behind `//`, `*` and `/`, tried in this order: here
  the pending `product`.  That the longer sign is tried first is a matter of the tokens.
* A sum is a fold from the left over products behind `+` and `-`: here the pending `sum`.  A minus
  sign negates where an operand is awaited and subtracts behind one.
* The whole text has to be used up: here `finish`, which asks for no open parenthesis.

The padding of all of these is in the tokens, which are told apart without regard to blanks.
-/

namespace ShapeAlgebra.Term

/-! ## States -/

/-- A left operand and the operator that waits for the right one. -/
abbrev Pending := Option (Term × Op)

/-- The term that completes a pending operation with its right operand. -/
def complete (pending : Pending) (t : Term) : Term :=
  match pending with
  | none => t
  | some (l, op) => .binary op l t

@[simp]
theorem complete_none (t : Term) : complete none t = t := rfl

@[simp]
theorem complete_some (l t : Term) (op : Op) : complete (some (l, op)) t = .binary op l t := rfl

/-- What stands to the left of an operand, back to the nearest open parenthesis. -/
structure Frame where
  /-- The sum that the operand belongs to. -/
  sum : Pending := none
  /-- The product that the operand belongs to. -/
  product : Pending := none
  /-- The minus signs in front of the operand. -/
  negations : Nat := 0
  deriving DecidableEq, Repr

/-- The product that a frame makes of its operand. -/
def Frame.absorb (f : Frame) (t : Term) : Term := complete f.product (negated f.negations t)

/-- What has been read, as far as the rest depends on it. -/
inductive State where
  /-- An operand is awaited after `frame`, inside the parentheses after `outer`. -/
  | operand (frame : Frame) (outer : List Frame)
  /-- The product `t` has been read after the sum `sum`, inside the parentheses after
  `outer`. -/
  | operator (sum : Pending) (t : Term) (outer : List Frame)
  deriving DecidableEq, Repr

namespace State

/-- Nothing has been read. -/
def start : State := .operand {} []

/-- The state after the operand `t`. -/
def afterOperand (f : Frame) (t : Term) (outer : List Frame) : State :=
  .operator f.sum (f.absorb t) outer

/-- The state after the operator `op` behind the product `t`.  A sum operator completes the sum
so far, a product operator leaves it waiting. -/
def afterOperator (sum : Pending) (t : Term) (op : Op) (outer : List Frame) : State :=
  if op.isSum then .operand { sum := some (complete sum t, op) } outer
  else .operand { sum := sum, product := some (t, op) } outer

/-- The state after one more token, if it may stand there. -/
def step : State → Token → Option State
  | .operand f outer, .op .sub => some (.operand { f with negations := f.negations + 1 } outer)
  | .operand f outer, .opening => some (.operand {} (f :: outer))
  | .operand f outer, .ident symbol => some (afterOperand f (.ident symbol) outer)
  | .operand f outer, .int value => some (afterOperand f (.int value) outer)
  | .operator sum t outer, .op op => some (afterOperator sum t op outer)
  | .operator sum t (f :: outer), .closing => some (afterOperand f (complete sum t) outer)
  | _, _ => none

/-- The term that has been read, if the text may end here. -/
def finish : State → Option Term
  | .operator sum t [] => some (complete sum t)
  | _ => none

/-- The state after the tokens `ts`, if they may stand there. -/
def run (s : State) (ts : List Token) : Option State := ts.foldlM step s

@[simp]
theorem run_nil (s : State) : s.run [] = some s := rfl

@[simp]
theorem run_cons (s : State) (t : Token) (ts : List Token) :
    s.run (t :: ts) = (s.step t).bind fun s' => s'.run ts := rfl

/-- Reading on is reading. -/
theorem run_append (s : State) (ts us : List Token) :
    s.run (ts ++ us) = (s.run ts).bind fun s' => s'.run us := by
  simp [run, List.foldlM_append]

end State

/-! ## Reading -/

/-- The term that a list of tokens is, if it is in the grammar. -/
def ofTokens? (ts : List Token) : Option Term := (State.start.run ts).bind State.finish

/-- The term that a text is, if it is in the grammar. -/
def read? (cs : List Char) : Option Term := (Token.ofChars? cs).bind ofTokens?

end ShapeAlgebra.Term
