import ShapeAlgebra.Proofs.Outcome
import ShapeAlgebra.Expr.Eval

/-!
# Expressions without declared sizes

A dimension is stripped of everything but its name and its symbol, and an expression by stripping
its dimensions.  What an expression looks like, and which expressions it is the same as, does not
change by that.  Nor does its value under a binding that has a size for each of its dimensions: the
declared sizes are not asked for, and error messages do not show them.
-/

namespace ShapeAlgebra

/-- The dimension of the same name and symbol that has no size. -/
def Dim.stripped (d : Dim) : Dim := ⟨⟨d.name, d.symbol, none⟩, 0⟩

@[simp]
lemma Dim.symbol_stripped (d : Dim) : d.stripped.symbol = d.symbol := rfl

namespace Expr

/-- The expression with every dimension stripped. -/
def stripped (e : Expr) : Expr := e.substitute fun d => some (.var d.stripped)

@[simp]
lemma stripped_var (d : Dim) : (Expr.var d).stripped = .var d.stripped := rfl

@[simp]
lemma stripped_lit (n : Size) : (Expr.lit n).stripped = .lit n := rfl

@[simp]
lemma stripped_binary (op : BinOp) (l r : Expr) :
    (Expr.binary op l r).stripped = .binary op l.stripped r.stripped := rfl

/-! ## Structure -/

@[simp]
lemma same_stripped (a b : Expr) : a.stripped.same b.stripped = a.same b := by
  induction a generalizing b with
  | var d => cases b <;> rfl
  | lit n => cases b <;> rfl
  | binary op l r ihl ihr =>
    cases b with
    | var _ => rfl
    | lit _ => rfl
    | binary op' l' r' => simp [ihl, ihr]

/-- Only a literal is stripped to a literal. -/
lemma stripped_eq_lit_iff {e : Expr} {n : Size} : e.stripped = .lit n ↔ e = .lit n := by
  cases e <;> simp

/-- Whether a dimension has been seen does not depend on sizes. -/
lemma any_sameAxis_map_stripped (seen : List Dim) (d : Dim) :
    (seen.map Dim.stripped).any (·.sameAxis d.stripped) = seen.any (·.sameAxis d) := by
  rw [List.any_map]
  rfl

/-- The variables of an expression are collected without regard to sizes. -/
lemma collectVars_stripped (seen : List Dim) (e : Expr) :
    e.stripped.collectVars (seen.map Dim.stripped) = (e.collectVars seen).map Dim.stripped := by
  induction e generalizing seen with
  | var d =>
    rw [stripped_var, collectVars, collectVars, any_sameAxis_map_stripped]
    split
    · rfl
    · rw [List.map_append]
      rfl
  | lit n => rfl
  | binary op l r ihl ihr =>
    rw [stripped_binary, collectVars, collectVars, ihl, ihr]

@[simp]
lemma freeVars_stripped (e : Expr) : e.stripped.freeVars = e.freeVars.map Dim.stripped :=
  collectVars_stripped [] e

/-! ## Text -/

@[simp]
lemma symbolicAt_stripped (asked : Nat) (e : Expr) :
    e.stripped.symbolicAt asked = e.symbolicAt asked := by
  induction e generalizing asked with
  | var d => rfl
  | lit n => rfl
  | binary op l r ihl ihr => cases op <;> simp [symbolicAt, ihl, ihr]

@[simp]
lemma symbolic_stripped (e : Expr) : e.stripped.symbolic = e.symbolic := symbolicAt_stripped 0 e

/-! ## Value -/

/-- The error of an operation shows its operands symbolically, so that sizes do not matter to it. -/
lemma combine_stripped (op : BinOp) (l r : Expr) (m n : Size) :
    combine op l.stripped r.stripped m n = combine op l r m n := by
  unfold combine
  rw [← stripped_binary, symbolic_stripped, symbolic_stripped]

/-- Collecting variables keeps those that were seen. -/
lemma subset_collectVars (seen : List Dim) (e : Expr) : seen ⊆ e.collectVars seen := by
  induction e generalizing seen with
  | var d =>
    unfold collectVars
    split
    · exact List.Subset.refl seen
    · exact List.subset_append_left seen [d]
  | lit n => exact List.Subset.refl seen
  | binary op l r ihl ihr => exact List.Subset.trans (ihl seen) (ihr _)

/-- The induction goes from left to right, with the dimensions seen so far: one that is not
collected again has been seen under the same symbol. -/
lemma evalIn_stripped_of_collectVars {b : String → Option Size} {seen : List Dim} {e : Expr}
    (h : ∀ d ∈ e.collectVars seen, (b d.symbol).isSome = true) :
    e.stripped.evalIn (fun d => b d.symbol) = e.evalIn fun d => b d.symbol := by
  induction e generalizing seen with
  | var d =>
    have hbound : (b d.symbol).isSome = true := by
      unfold collectVars at h
      split at h
      · rename_i hseen
        obtain ⟨d', hmem, hsame⟩ := List.any_eq_true.1 hseen
        rw [← Dim.sameAxis_iff.1 hsame]
        exact h d' hmem
      · exact h d (List.mem_append_right seen List.mem_cons_self)
    obtain ⟨n, hn⟩ := Option.isSome_iff_exists.1 hbound
    simp [sizeOfDim, hn]
  | lit n => rfl
  | binary op l r ihl ihr =>
    have hl := ihl fun d hd => h d (subset_collectVars _ r hd)
    have hr := ihr h
    simp only [stripped_binary, evalIn_binary, hl, hr, combine_stripped]

/-- Under a binding with a size for each of its dimensions, an expression has the same value
without the declared sizes, or fails in the same way. -/
lemma evalIn_stripped {b : String → Option Size} {e : Expr}
    (h : ∀ d ∈ e.freeVars, (b d.symbol).isSome = true) :
    e.stripped.evalIn (fun d => b d.symbol) = e.evalIn fun d => b d.symbol :=
  evalIn_stripped_of_collectVars h

end Expr

end ShapeAlgebra
