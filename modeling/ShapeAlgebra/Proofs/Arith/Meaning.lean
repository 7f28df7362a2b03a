import ShapeAlgebra.Expr.Eval
import ShapeAlgebra.Proofs.Arith.Faults
import ShapeAlgebra.Proofs.Arith.Printing
import ShapeAlgebra.Proofs.Size

/-!
# Compiling keeps the meaning

A term means a number over the unbounded integers, once its symbols have sizes: a minus sign
negates, and `//` rounds toward negative infinity.  The expression that a term is compiled to has
this number as its value, provided that the numbers of all subterms are sizes, and no value
otherwise.  That a negation may be compiled to a product does not matter, since both are sizes
together.
-/

namespace ShapeAlgebra

/-- The sizes that the symbols of a registry have under a binding, or else by declaration. -/
def Registry.sizes (r : Registry) (b : Binding) (symbol : String) : Option Int :=
  (r.find? symbol).bind fun d => ((b d).or d.size).map Int64.toInt

namespace Term

/-! ## Exact values -/

/-- The exact result of an operator on two integers, if there is one. -/
def Op.value? : Op → Int → Int → Option Int
  | .add, m, n => some (m + n)
  | .sub, m, n => some (m - n)
  | .mul, m, n => some (m * n)
  | .floorDiv, m, n => if n = 0 then none else some (m.fdiv n)
  | .trueDiv, _, _ => none

/-- The exact value of a term over the integers, where `sizes` has those of the symbols. -/
def value? (sizes : String → Option Int) : Term → Option Int
  | .ident symbol => sizes symbol
  | .int value => some value.toInt
  | .neg operand => (operand.value? sizes).map fun m => -m
  | .binary op l r =>
    (l.value? sizes).bind fun m => (r.value? sizes).bind fun n => op.value? m n

/-- The range of sizes. -/
def InRange (m : Int) : Prop := -2 ^ 63 ≤ m ∧ m < 2 ^ 63

/-- The values of all subterms lie in the range of sizes. -/
def Fits (sizes : String → Option Int) (t : Term) : Prop :=
  ∀ s ∈ t.subterms, ∀ m, s.value? sizes = some m → InRange m

variable {r : Registry} {spec : String} {sizes : String → Option Int} {t : Term} {b : Binding}

/-! ## Values that fit -/

/-- Every size is in the range of sizes. -/
lemma inRange_toInt (n : Size) : InRange n.toInt :=
  ⟨n.minValue_le_toInt, Int.lt_add_one_of_le n.toInt_le⟩

/-- Every number in the range is that of a size. -/
lemma InRange.exists_toInt {m : Int} (h : InRange m) : ∃ n : Size, n.toInt = m :=
  ⟨Int64.ofInt m, Int64.toInt_ofInt_of_le h.1 h.2⟩

/-- The value of a term that fits is a size. -/
lemma Fits.exists_toInt (h : t.Fits sizes) {m : Int} (hm : t.value? sizes = some m) :
    ∃ n : Size, n.toInt = m := by
  have hself : t ∈ t.subterms := by cases t <;> simp [subterms]
  exact (h t hself m hm).exists_toInt

/-- A negation fits if its operand does and its own value, if there is one, is in range. -/
lemma fits_neg_iff :
    (Term.neg t).Fits sizes ↔
      t.Fits sizes ∧ ∀ m, (Term.neg t).value? sizes = some m → InRange m := by
  simp only [Fits, subterms, List.mem_append, List.mem_singleton, or_imp, forall_and, forall_eq]

/-- An operation fits if both operands do and its own value, if there is one, is in range. -/
lemma fits_binary_iff {op : Op} {lhs rhs : Term} :
    (Term.binary op lhs rhs).Fits sizes ↔ lhs.Fits sizes ∧ rhs.Fits sizes ∧
      ∀ m, (Term.binary op lhs rhs).value? sizes = some m → InRange m := by
  simp only [Fits, subterms, List.mem_append, List.mem_singleton, or_imp, forall_and, forall_eq]

end Term

/-! ## Values of expressions -/

/-- The value of an operation is that of its operator on the values of its operands. -/
lemma Expr.evalIn_binary_eq_ok_iff {b : Binding} {op : BinOp} {l r : Expr} {n : Size} :
    (Expr.binary op l r).evalIn b = .ok n ↔
      ∃ m k, l.evalIn b = .ok m ∧ r.evalIn b = .ok k ∧ op.apply? m k = some n := by
  have hcombine (m k : Size) : combine op l r m k = .ok n ↔ op.apply? m k = some n := by
    unfold combine
    split
    · rename_i hzero
      obtain ⟨rfl, rfl⟩ := hzero
      simp [ BinOp.apply?, Size.floorDiv?]
    · cases op.apply? m k <;> simp
  change ((l.evalIn b) >>= fun m => (r.evalIn b) >>= fun k => combine op l r m k) = .ok n ↔ _
  simp only [bind_eq_ok_iff, hcombine, exists_and_left]

namespace Term

variable {r : Registry} {spec : String} {sizes : String → Option Int} {t : Term} {b : Binding}

/-- On sizes, an operator and the one it is compiled to agree wherever the result is a size. -/
lemma Op.apply?_eq_some_iff {op : Op} {o : BinOp} (h : op.binOp? = some o) {m k n : Size} :
    o.apply? m k = some n ↔ op.value? m.toInt k.toInt = some n.toInt := by
  cases op with
  | add =>
    obtain rfl := Option.some.inj h
    exact Size.add?_eq_some_iff.trans (by rw [Op.value?, Option.some_inj, eq_comm])
  | sub =>
    obtain rfl := Option.some.inj h
    exact Size.sub?_eq_some_iff.trans (by rw [Op.value?, Option.some_inj, eq_comm])
  | mul =>
    obtain rfl := Option.some.inj h
    exact Size.mul?_eq_some_iff.trans (by rw [Op.value?, Option.some_inj, eq_comm])
  | floorDiv =>
    obtain rfl := Option.some.inj h
    refine Size.floorDiv?_eq_some_iff.trans ?_
    rw [Op.value?, Ne, Size.eq_zero_iff]
    split
    · rename_i hzero
      simp [hzero]
    · rename_i hzero
      rw [Option.some_inj, eq_comm (a := n.toInt)]
      simp [hzero]
  | trueDiv => cases h

/-! ## Agreement -/

/-- The expression `e` has the exact value of `t` as its value where `t` fits, and no value
elsewhere. -/
def Agrees (b : Binding) (sizes : String → Option Int) (t : Term) (e : Expr) : Prop :=
  ∀ n, e.evalIn b = .ok n ↔ t.value? sizes = some n.toInt ∧ t.Fits sizes

/-- An identifier agrees with the dimension that is declared under it. -/
lemma agrees_ident {symbol : String} {d : Dim} (h : r.find? symbol = some d) :
    Agrees b (r.sizes b) (.ident symbol) (.var d) := by
  intro n
  have hvalue : (Term.ident symbol).value? (r.sizes b) = ((b d).or d.size).map Int64.toInt := by
    rw [value?, Registry.sizes, h]
    rfl
  have hfits : (Term.ident symbol).Fits (r.sizes b) := by
    intro s hs m hm
    obtain rfl := List.mem_singleton.1 hs
    rw [hvalue] at hm
    obtain ⟨k, _, rfl⟩ := Option.map_eq_some_iff.1 hm
    exact inRange_toInt k
  rw [hvalue, Expr.evalIn_var, Expr.sizeOfDim]
  cases (b d).or d.size with
  | none => simp
  | some k => simp [hfits, Int64.toInt_inj]

/-- A number agrees with the literal of that number. -/
lemma agrees_int (value : Size) : Agrees b sizes (.int value) (.lit value) := by
  intro n
  have hfits : (Term.int value).Fits sizes := by
    intro s hs m hm
    obtain rfl := List.mem_singleton.1 hs
    obtain rfl := Option.some.inj hm
    exact inRange_toInt value
  simp [value?, hfits, Int64.toInt_inj]

/-- The negation of a size without a sign is a size. -/
lemma toInt_neg_of_nonneg {n : Size} (h : 0 ≤ n.toInt) : (-n).toInt = -n.toInt := by
  have hrange : n.toInt < 2 ^ 63 := (inRange_toInt n).2
  rw [Int64.toInt_neg]
  exact Int.bmod_eq_of_le (by omega) (by omega)

/-- A number behind a minus sign is the number with the sign. -/
lemma agrees_neg_int {value : Size} (h : 0 ≤ value.toInt) :
    Agrees b sizes (.neg (.int value)) (.lit (-value)) := by
  intro n
  have hvalue : (Term.neg (.int value)).value? sizes = some (-value).toInt := by
    rw [toInt_neg_of_nonneg h]
    rfl
  have hfits : (Term.neg (.int value)).Fits sizes := by
    refine fits_neg_iff.2 ⟨(((agrees_int (b := b) value) value).1 rfl).2, fun m hm => ?_⟩
    obtain rfl := Option.some.inj (hvalue.symm.trans hm)
    exact inRange_toInt (-value)
  rw [hvalue, Expr.evalIn_lit, Except.ok.injEq, Option.some_inj, Int64.toInt_inj]
  simp [hfits]

/-- Any other negation is a product with `-1`. -/
lemma Agrees.neg {e : Expr} (h : Agrees b sizes t e) :
    Agrees b sizes (.neg t) (Expr.mul (.lit (-1)) e) := by
  intro n
  rw [Expr.mul, Expr.evalIn_binary_eq_ok_iff, fits_neg_iff]
  constructor
  · rintro ⟨m, k, hm, hk, hmul⟩
    obtain rfl := Except.ok.inj hm
    obtain ⟨hvalue, hfits⟩ := (h k).1 hk
    have hn : n.toInt = -1 * k.toInt := Size.mul?_eq_some_iff.1 hmul
    have hneg : (Term.neg t).value? sizes = some n.toInt := by
      rw [value?, hvalue, hn, neg_one_mul]
      rfl
    refine ⟨hneg, hfits, fun m hm => ?_⟩
    obtain rfl := Option.some.inj (hneg.symm.trans hm)
    exact inRange_toInt n
  · rintro ⟨hneg, hfits, _⟩
    obtain ⟨m, hvalue, hn⟩ := Option.map_eq_some_iff.1 hneg
    obtain ⟨k, rfl⟩ := hfits.exists_toInt hvalue
    refine ⟨-1, k, rfl, (h k).2 ⟨hvalue, hfits⟩, Size.mul?_eq_some_iff.2 ?_⟩
    rw [Size.toInt_neg_one, neg_one_mul, hn]

/-- An operation agrees with the expression of its operator if the operands do. -/
lemma Agrees.binary {op : Op} {o : BinOp} {lhs rhs : Term} {le re : Expr}
    (hop : op.binOp? = some o) (hl : Agrees b sizes lhs le) (hr : Agrees b sizes rhs re) :
    Agrees b sizes (.binary op lhs rhs) (.binary o le re) := by
  intro n
  rw [Expr.evalIn_binary_eq_ok_iff, fits_binary_iff]
  constructor
  · rintro ⟨m, k, hm, hk, happly⟩
    obtain ⟨hlvalue, hlfits⟩ := (hl m).1 hm
    obtain ⟨hrvalue, hrfits⟩ := (hr k).1 hk
    have hvalue : (Term.binary op lhs rhs).value? sizes = some n.toInt := by
      rw [value?, hlvalue, hrvalue]
      exact (Op.apply?_eq_some_iff hop).1 happly
    refine ⟨hvalue, hlfits, hrfits, fun v hv => ?_⟩
    obtain rfl := Option.some.inj (hvalue.symm.trans hv)
    exact inRange_toInt n
  · rintro ⟨hvalue, hlfits, hrfits, _⟩
    obtain ⟨m, hlvalue, hrest⟩ := Option.bind_eq_some_iff.1 hvalue
    obtain ⟨k, hrvalue, hresult⟩ := Option.bind_eq_some_iff.1 hrest
    obtain ⟨m, rfl⟩ := hlfits.exists_toInt hlvalue
    obtain ⟨k, rfl⟩ := hrfits.exists_toInt hrvalue
    exact ⟨m, k, (hl m).2 ⟨hlvalue, hlfits⟩, (hr k).2 ⟨hrvalue, hrfits⟩,
      (Op.apply?_eq_some_iff hop).2 hresult⟩

/-- A well-formed term agrees with the expression that it is compiled to. -/
lemma agrees_of_compile (ht : t.WellFormed) {e : Expr} (h : t.compile r spec = .ok e) :
    Agrees b (r.sizes b) t e := by
  induction t using Term.compile.induct generalizing e with
  | case1 symbol =>
    obtain ⟨d, hd, rfl⟩ := map_eq_ok_iff.1 h
    unfold Registry.resolve at hd
    split at hd
    · rename_i hfind
      obtain rfl := Except.ok.inj hd
      exact agrees_ident hfind
    · cases hd
  | case2 value =>
    obtain rfl := Except.ok.inj h
    exact agrees_int value
  | case3 value =>
    obtain rfl := Except.ok.inj h
    exact agrees_neg_int ht
  | case4 operand hint ih =>
    rw [Term.compile.eq_4 _ _ _ hint] at h
    obtain ⟨e', he', hmul⟩ := bind_eq_ok_iff.1 h
    obtain rfl := Except.ok.inj hmul
    exact (ih ht he').neg
  | case5 op lhs rhs ihl ihr =>
    obtain ⟨le, hle, hrest⟩ := bind_eq_ok_iff.1 h
    obtain ⟨re, hre, hop⟩ := bind_eq_ok_iff.1 hrest
    obtain ⟨o, hbin, rfl⟩ := Op.binOp?_of_compile hop
    exact .binary hbin (ihl ht.1 hle) (ihr ht.2 hre)

/-- A term that was read compiles exactly if no subterm of it has a fault, and is refused for the
first of them otherwise.  What it is compiled to has the exact value of the term as its value where
the values of all subterms are sizes, and no value elsewhere. -/
theorem compile_keeps_meaning (r : Registry) (spec : String) {cs : List Char} {t : Term}
    (ht : read? cs = some t) :
    ((∃ e, t.compile r spec = .ok e) ↔ ∀ s ∈ t.subterms, ¬ s.Faulty r) ∧
      ((∃ s ∈ t.subterms, s.Faulty r) → ∃ s cause, FirstFaulty r t.subterms s ∧
        Blames r spec s cause ∧ t.compile r spec = .error ⟨spec, cause⟩) ∧
      ∀ e, t.compile r spec = .ok e → ∀ (b : Binding) (n : Size),
        e.evalIn b = .ok n ↔ t.value? (r.sizes b) = some n.toInt ∧ t.Fits (r.sizes b) := by
  have hmeaning (e : Expr) (he : t.compile r spec = .ok e) (b : Binding) (n : Size) :
      e.evalIn b = .ok n ↔ t.value? (r.sizes b) = some n.toInt ∧ t.Fits (r.sizes b) :=
    agrees_of_compile (wellFormed_of_read? ht) he n
  cases outcome r spec t with
  | compiles e he hsound =>
    refine ⟨⟨fun _ => hsound, fun _ => ⟨e, he⟩⟩, ?_, hmeaning⟩
    rintro ⟨s, hs, hfaulty⟩
    exact absurd hfaulty (hsound s hs)
  | blames s cause hfirst herror hblames =>
    refine ⟨⟨?_, fun hsound => absurd hsound hfirst.not_sound⟩,
      fun _ => ⟨s, cause, hfirst, hblames, herror⟩, hmeaning⟩
    rintro ⟨e, he⟩
    rw [herror] at he
    cases he

/-- The size of `d` is bound, and both negations and the rounding of `-5 / -2` are met. -/
theorem compile_keeps_meaning_rounded :
    let r := Registry.registerAll {} [⟨"Batch", "b", some 6⟩, ⟨"Depth", "d", none⟩]
    let b : Binding := fun d => if d.symbol = "d" then some 1 else none
    let text := "-(b-d)//-2".toList
    ∃ t e, read? text = some t ∧ t.compile r "v" = .ok e ∧ e.evalIn b = .ok 2 ∧
      (∀ s ∈ t.subterms, ¬ s.Faulty r) ∧ t.value? (r.sizes b) = some 2 ∧ t.Fits (r.sizes b) := by
  intro r b text
  have hread : read? text = some (.binary .floorDiv
      (.neg (.binary .sub (.ident "b") (.ident "d"))) (.neg (.int 2))) := by decide
  obtain ⟨hcompiles, _, hmeaning⟩ := compile_keeps_meaning r "v" hread
  refine ⟨_, _, hread, rfl, rfl, hcompiles.1 ⟨_, rfl⟩, ?_⟩
  exact (hmeaning _ rfl b 2).1 rfl

end Term

end ShapeAlgebra
