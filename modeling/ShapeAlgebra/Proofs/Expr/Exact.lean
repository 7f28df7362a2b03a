import ShapeAlgebra.Proofs.Arith.Meaning

/-!
# Exact values

An expression means a number over the unbounded integers: its dimensions have the sizes that they
are bound to or declared with, and `//` rounds toward negative infinity.  Evaluation is in 64 bits,
and yet it ends with this number or with none.  It has a value exactly when every dimension has a
size, no divisor is zero and the number of every subexpression is a size; otherwise it ends with
the error of the first subexpression that has none, where a subexpression comes behind its operands
and a right operand behind the left one.  The induction carries both ends at once, as an `Outcome`.

At last the division is taken apart into the steps of the machine, which could trap.  They never do.
-/

namespace ShapeAlgebra

open Term (InRange inRange_toInt InRange.exists_toInt)

/-! ## Operators -/

/-- The exact result of an operator on two integers, if there is one. -/
def BinOp.value? : BinOp → Int → Int → Option Int
  | .add, m, n => some (m + n)
  | .sub, m, n => some (m - n)
  | .mul, m, n => some (m * n)
  | .floorDiv, m, n => if n = 0 then none else some (m.fdiv n)

/-- Only a division by zero has no result. -/
lemma BinOp.value?_eq_none_iff {op : BinOp} {m n : Int} :
    op.value? m n = none ↔ op = .floorDiv ∧ n = 0 := by
  cases op <;> simp [value?]

/-- On sizes, an operator has its exact result wherever that is a size. -/
lemma BinOp.apply?_eq_some_iff {op : BinOp} {m k n : Size} :
    op.apply? m k = some n ↔ op.value? m.toInt k.toInt = some n.toInt := by
  have hwritten : ∃ o : Term.Op, o.binOp? = some op ∧ o.value? = op.value? := by
    cases op with
    | add => exact ⟨.add, rfl, rfl⟩
    | sub => exact ⟨.sub, rfl, rfl⟩
    | mul => exact ⟨.mul, rfl, rfl⟩
    | floorDiv => exact ⟨.floorDiv, rfl, rfl⟩
  obtain ⟨o, hop, hvalue⟩ := hwritten
  rw [← hvalue]
  exact Term.Op.apply?_eq_some_iff hop

/-- An operator without a result in sizes divides by zero, or its exact result is out of range. -/
lemma BinOp.apply?_eq_none {op : BinOp} {m k : Size} (h : op.apply? m k = none) :
    (op = .floorDiv ∧ k = 0) ∨
      ∃ v, op.value? m.toInt k.toInt = some v ∧ ¬InRange v := by
  by_cases hnone : op.value? m.toInt k.toInt = none
  · obtain ⟨hop, hk⟩ := BinOp.value?_eq_none_iff.1 hnone
    exact .inl ⟨hop, Size.eq_zero_iff.2 hk⟩
  · obtain ⟨v, hv⟩ := Option.ne_none_iff_exists'.1 hnone
    refine .inr ⟨v, hv, fun hrange => ?_⟩
    obtain ⟨n, rfl⟩ := hrange.exists_toInt
    rw [BinOp.apply?_eq_some_iff.2 hv] at h
    cases h

namespace Expr

variable {b : Binding} {e l r s : Expr} {op : BinOp} {m k n : Size}

/-! ## Exact values -/

/-- The exact value of an expression over the integers, where `b` binds dimensions to sizes and the
declared sizes fill in. -/
def value? (b : Binding) : Expr → Option Int
  | .var d => ((b d).or d.size).map Int64.toInt
  | .lit n => some n.toInt
  | .binary op l r => (l.value? b).bind fun m => (r.value? b).bind fun n => op.value? m n

/-- The subexpressions of an expression, each behind its operands. -/
def subexpressions : Expr → List Expr
  | .var d => [.var d]
  | .lit n => [.lit n]
  | .binary op l r => l.subexpressions ++ (r.subexpressions ++ [.binary op l r])

/-- Every dimension of the expression has a size, nothing is divided by zero, and the exact values
of all subexpressions are sizes. -/
structure Exact (b : Binding) (e : Expr) : Prop where
  sized : ∀ d, .var d ∈ e.subexpressions → b d ≠ none ∨ d.size ≠ none
  divisor_ne_zero : ∀ l r, .binary .floorDiv l r ∈ e.subexpressions → r.value? b ≠ some 0
  inRange : ∀ s ∈ e.subexpressions, ∀ m, s.value? b = some m → InRange m

/-- What is reported for an expression whose operands have values: a dimension without a size, a
divisor that is zero, or a result that is no size. -/
inductive Blames (b : Binding) : Expr → ShapeError → Prop where
  | unsized {d : Dim} : b d = none → d.size = none →
    Blames b (.var d) ⟨(Expr.var d).symbolic, .unsized d.symbol⟩
  | zeroDivisor {l r : Expr} : r.value? b = some 0 →
    Blames b (.binary .floorDiv l r)
      ⟨(Expr.binary .floorDiv l r).symbolic, .operand (.zeroDivisor r.symbolic)⟩
  | overflow {op : BinOp} {l r : Expr} {m n : Size} {v : Int} : l.value? b = some m.toInt →
    r.value? b = some n.toInt → op.value? m.toInt n.toInt = some v → ¬InRange v →
      Blames b (.binary op l r)
        ⟨(Expr.binary op l r).symbolic, .operand (.overflow m op.sign n)⟩

/-- Evaluation ends with an error. -/
def Fails (b : Binding) (e : Expr) : Prop := ∃ err, e.evalIn b = .error err

/-- An expression either fails or has a value. -/
lemma not_fails_iff : ¬Fails b e ↔ ∃ n, e.evalIn b = .ok n := by
  unfold Fails
  cases e.evalIn b <;> simp

/-- Every expression is one of its own subexpressions. -/
lemma mem_subexpressions_self (e : Expr) : e ∈ e.subexpressions := by
  cases e <;> simp [subexpressions]

/-! ## Values -/

/-- A value is the exact one. -/
lemma value?_of_evalIn (h : e.evalIn b = .ok n) : e.value? b = some n.toInt := by
  induction e generalizing n with
  | var d =>
    rw [evalIn_var, sizeOfDim] at h
    rw [value?]
    split at h
    · rename_i m hm
      obtain rfl := Except.ok.inj h
      rw [hm]
      rfl
    · cases h
  | lit m =>
    obtain rfl := Except.ok.inj h
    rfl
  | binary op l r ihl ihr =>
    obtain ⟨m, k, hm, hk, happly⟩ := evalIn_binary_eq_ok_iff.1 h
    rw [value?, ihl hm, ihr hk]
    exact BinOp.apply?_eq_some_iff.1 happly

/-- Where all subexpressions have values, the expression is exact. -/
lemma exact_of_evalIn (h : ∀ s ∈ e.subexpressions, ∃ n, s.evalIn b = .ok n) : e.Exact b where
  sized d hd := by
    obtain ⟨n, hn⟩ := h _ hd
    by_contra hnone
    rw [not_or, not_not, not_not] at hnone
    rw [evalIn_var, sizeOfDim, hnone.1, hnone.2] at hn
    cases hn
  divisor_ne_zero l r hdiv hzero := by
    obtain ⟨n, hn⟩ := h _ hdiv
    have hvalue := value?_of_evalIn hn
    rw [value?, hzero] at hvalue
    obtain ⟨m, _, hnone⟩ := Option.bind_eq_some_iff.1 hvalue
    cases hnone
  inRange s hs m hm := by
    obtain ⟨n, hn⟩ := h s hs
    obtain rfl := Option.some.inj (hm.symm.trans (value?_of_evalIn hn))
    exact inRange_toInt n

/-! ## Errors -/

/-- An operation on values ends with a value or with an error that blames the operation. -/
lemma blames_of_combine {err : ShapeError} (hl : l.value? b = some m.toInt)
    (hr : r.value? b = some k.toInt) (h : combine op l r m k = .error err) :
    Blames b (.binary op l r) err := by
  unfold combine at h
  split at h
  · rename_i hzero
    obtain ⟨rfl, rfl⟩ := hzero
    obtain rfl := Except.error.inj h
    exact .zeroDivisor hr
  · rename_i hnonzero
    split at h
    · cases h
    · rename_i hnone
      obtain rfl := Except.error.inj h
      obtain ⟨v, hv, hrange⟩ := (BinOp.apply?_eq_none hnone).resolve_left hnonzero
      exact .overflow hl hr hv hrange

/-- What is blamed keeps every expression that it is part of from being exact. -/
lemma Blames.not_exact {err : ShapeError} (h : Blames b s err) (hs : s ∈ e.subexpressions) :
    ¬e.Exact b := by
  intro hexact
  cases h with
  | unsized hbound hsize => exact (hexact.sized _ hs).elim (· hbound) (· hsize)
  | zeroDivisor hzero => exact hexact.divisor_ne_zero _ _ hs hzero
  | overflow hl hr hv hrange =>
    refine hrange (hexact.inRange _ hs _ ?_)
    rw [value?, hl, hr]
    exact hv

/-- How evaluation ends: with values of all subexpressions, or with the error of the first that has
none. -/
inductive Outcome (b : Binding) (e : Expr) : Prop where
  | evaluates : (∀ s ∈ e.subexpressions, ¬Fails b s) → Outcome b e
  | blames (s : Expr) (err : ShapeError) : First (Fails b) e.subexpressions s →
    Blames b s err → s.evalIn b = .error err → e.evalIn b = .error err → Outcome b e

/-- How evaluation ends where there are no operands. -/
lemma outcome_leaf (hself : e.subexpressions = [e])
    (hblames : ∀ err, e.evalIn b = .error err → Blames b e err) : Outcome b e := by
  by_cases hfails : Fails b e
  · obtain ⟨err, herr⟩ := hfails
    refine .blames e err ?_ (hblames err herr) herr herr
    rw [hself]
    exact .singleton ⟨err, herr⟩
  · refine .evaluates fun s hs => ?_
    rw [hself, List.mem_singleton] at hs
    rwa [hs]

/-- How an operation ends when its operands have values. -/
lemma outcome_binary (op : BinOp) (hl : ∀ s ∈ l.subexpressions, ¬Fails b s)
    (hr : ∀ s ∈ r.subexpressions, ¬Fails b s) : Outcome b (.binary op l r) := by
  obtain ⟨m, hm⟩ := not_fails_iff.1 (hl l (mem_subexpressions_self l))
  obtain ⟨k, hk⟩ := not_fails_iff.1 (hr r (mem_subexpressions_self r))
  have hcombine : (Expr.binary op l r).evalIn b = combine op l r m k := by
    rw [evalIn_binary, hm, hk]
    rfl
  by_cases hfails : Fails b (.binary op l r)
  · obtain ⟨err, herr⟩ := hfails
    refine .blames _ err (.append_left hl (.append_left hr (.singleton ⟨err, herr⟩))) ?_ herr herr
    exact blames_of_combine (value?_of_evalIn hm) (value?_of_evalIn hk) (hcombine ▸ herr)
  · refine .evaluates fun s hs => ?_
    rw [subexpressions, List.mem_append, List.mem_append, List.mem_singleton] at hs
    obtain hs | hs | rfl := hs
    · exact hl s hs
    · exact hr s hs
    · exact hfails

/-- Evaluation ends with values of all subexpressions, or with the error of the first that has
none. -/
lemma outcome (b : Binding) (e : Expr) : Outcome b e := by
  induction e with
  | var d =>
    refine outcome_leaf rfl fun err herr => ?_
    rw [evalIn_var, sizeOfDim] at herr
    split at herr
    · cases herr
    · rename_i hnone
      obtain rfl := Except.error.inj herr
      obtain ⟨hbound, hsize⟩ := Option.or_eq_none_iff.1 hnone
      exact .unsized hbound hsize
  | lit n =>
    refine outcome_leaf rfl fun err herr => ?_
    cases herr
  | binary op l r ihl ihr =>
    cases ihl with
    | blames s err hfirst hblames hself herror =>
      refine .blames s err (hfirst.append_right _) hblames hself ?_
      rw [evalIn_binary, herror]
      rfl
    | evaluates hl =>
      -- the left operand has a value, and what fails first is in the right one or the whole
      obtain ⟨m, hm⟩ := not_fails_iff.1 (hl l (mem_subexpressions_self l))
      cases ihr with
      | blames s err hfirst hblames hself herror =>
        refine .blames s err (.append_left hl (hfirst.append_right _)) hblames hself ?_
        rw [evalIn_binary, hm, herror]
        rfl
      | evaluates hr => exact outcome_binary op hl hr

/-- An expression that is exact has a value. -/
lemma Exact.exists_evalIn (h : e.Exact b) : ∃ n, e.evalIn b = .ok n := by
  cases outcome b e with
  | evaluates hall => exact not_fails_iff.1 (hall e (mem_subexpressions_self e))
  | blames s err hfirst hblames _ _ => exact absurd h (hblames.not_exact hfirst.mem)

/-- An expression that has a value is exact. -/
lemma exact_of_evalIn_eq_ok (h : e.evalIn b = .ok n) : e.Exact b := by
  cases outcome b e with
  | evaluates hall => exact exact_of_evalIn fun s hs => not_fails_iff.1 (hall s hs)
  | blames _ _ _ _ _ herror =>
    rw [h] at herror
    cases herror

end Expr

/-! ## Machine steps -/

/-- The result of an operator as the machine takes it, which divides in steps. -/
def BinOp.applyInSteps {ε : Type} : BinOp → Size → Size → Checked ε (Option Size)
  | .floorDiv, m, n => Size.floorDivByQuotient m n
  | op, m, n => .ok ( op.apply? m n)

/-- The steps of the machine come to the result of the operator. -/
lemma BinOp.applyInSteps_eq {ε : Type} (op : BinOp) (m n : Size) :
    (op.applyInSteps m n : Checked ε (Option Size)) = .ok ( op.apply? m n) := by
  cases op with
  | floorDiv => exact Size.floorDivByQuotient_eq m n
  | _ => rfl

namespace Expr

/-- The value of an expression as the machine takes it. -/
def evalInSteps (b : Binding) : Expr → Checked ShapeError Size
  | .lit n => .ok n
  | .var d => Checked.ofExcept (sizeOfDim b d)
  | .binary op l r => do
    let m ← l.evalInSteps b
    let n ← r.evalInSteps b
    if op = .floorDiv ∧ n = 0 then
      Checked.refuse ⟨(Expr.binary op l r).symbolic, .operand (.zeroDivisor r.symbolic)⟩
    else
      match ← op.applyInSteps m n with
      | some value => .ok value
      | none =>
        Checked.refuse ⟨(Expr.binary op l r).symbolic, .operand (.overflow m op.sign n)⟩

/-- The steps of the machine never trap, and end as the evaluation does. -/
lemma evalInSteps_eq (b : Binding) (e : Expr) :
    e.evalInSteps b = Checked.ofExcept (e.evalIn b) := by
  induction e with
  | var d => rfl
  | lit n => rfl
  | binary op l r ihl ihr =>
    rw [evalInSteps, ihl, ihr, evalIn_binary]
    cases l.evalIn b with
    | error err => rfl
    | ok m =>
      cases r.evalIn b with
      | error err => rfl
      | ok n =>
        change (if op = .floorDiv ∧ n = 0 then _ else op.applyInSteps m n >>= _) =
          Checked.ofExcept (combine op l r m n)
        rw [BinOp.applyInSteps_eq, combine]
        split
        · rfl
        · cases op.apply? m n <;> rfl

/-! ## Main statement -/

/-- Evaluation ends with the exact value of the expression where there is one in range all the way,
and otherwise with the error of the first subexpression that fails.  Taken in steps of the machine
it ends in the same way, and never traps. -/
theorem evalIn_exact_or_blames (b : Binding) (e : Expr) :
    (∀ n, e.evalIn b = .ok n ↔ e.Exact b ∧ e.value? b = some n.toInt) ∧
      (e.Exact b → ∃ n, e.evalIn b = .ok n) ∧
      (¬e.Exact b → ∃ s err, First (Fails b) e.subexpressions s ∧ Blames b s err ∧
        s.evalIn b = .error err ∧ e.evalIn b = .error err) ∧
      e.evalInSteps b = Checked.ofExcept (e.evalIn b) := by
  refine ⟨fun n => ⟨fun h => ⟨exact_of_evalIn_eq_ok h, value?_of_evalIn h⟩, ?_⟩,
    Exact.exists_evalIn, ?_, evalInSteps_eq b e⟩
  · rintro ⟨hexact, hvalue⟩
    obtain ⟨m, hm⟩ := hexact.exists_evalIn
    have hsame : m.toInt = n.toInt := Option.some.inj ((value?_of_evalIn hm).symm.trans hvalue)
    rw [hm, Int64.toInt_inj.1 hsame]
  · intro hnot
    cases outcome b e with
    | evaluates hall =>
      exact absurd (exact_of_evalIn fun s hs => not_fails_iff.1 (hall s hs)) hnot
    | blames s err hfirst hblames hself herror =>
      exact ⟨s, err, hfirst, hblames, hself, herror⟩

/-- The quotient of `-5` by `-2` is rounded down, and a sum that leaves the range is reported before
a dimension without a size behind it. -/
theorem evalIn_exact_or_blames_rounded_and_overflowing :
    let b : Binding := fun d => if d.symbol = "d" then some 2 else none
    let rounded : Expr := .binary .floorDiv
      (.sub (.var ⟨⟨"Depth", "d", some 9⟩, 0⟩) (.lit 7)) (.lit (-2))
    let overflowing : Expr := .add (.lit Int64.maxValue) (.lit 1)
    let whole : Expr := .mul overflowing (.var ⟨⟨"Heads", "h", none⟩, 1⟩)
    (rounded.Exact b ∧ rounded.evalIn b = .ok 2) ∧ ¬whole.Exact b ∧
      ∃ s err, First (Fails b) whole.subexpressions s ∧ Blames b s err ∧
        whole.evalIn b = .error err ∧ err.spec = overflowing.symbolic := by
  intro b rounded overflowing whole
  obtain ⟨hrounded, -, -, -⟩ := evalIn_exact_or_blames b rounded
  obtain ⟨-, hvalue, hfails, -⟩ := evalIn_exact_or_blames b whole
  have herror : whole.evalIn b = .error
      ⟨overflowing.symbolic, .operand (.overflow Int64.maxValue "+" 1)⟩ := by rfl
  have hnot : ¬whole.Exact b := by
    intro hexact
    obtain ⟨n, hn⟩ := hvalue hexact
    rw [herror] at hn
    cases hn
  obtain ⟨s, err, hfirst, hblames, -, hwhole⟩ := hfails hnot
  refine ⟨⟨((hrounded 2).1 rfl).1, rfl⟩, hnot, s, err, hfirst, hblames, hwhole, ?_⟩
  rw [herror] at hwhole
  rw [← Except.error.inj hwhole]

end Expr

end ShapeAlgebra
