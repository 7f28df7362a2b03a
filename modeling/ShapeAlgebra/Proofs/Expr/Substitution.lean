import Mathlib.Data.List.Dedup
import ShapeAlgebra.Proofs.Arith.Meaning

/-!
# Substitution

Replacing dimensions by expressions and then evaluating is evaluating with these dimensions bound to
the values of what they were replaced by.  Replacements are not replaced again, so the binding is
made of values under the old binding alone.  Where one of the replacements has no value, there is
none after the substitution either.

The free dimensions of the result are those of the replacements, in order.  A list of dimensions is
collected without repetitions, and in a list of lists it makes no difference whether repetitions
are left out before, within or after joining the lists: `eraseDups_flatMap` says so for all lists.
-/

namespace ShapeAlgebra

/-! ## First occurrences -/

section FirstOccurrences

variable {α β : Type} [BEq α] [LawfulBEq α] [BEq β] [LawfulBEq β]

omit [LawfulBEq α] in
/-- Induction along first occurrences: from what differs from the first element to the whole
list. -/
@[elab_as_elim]
lemma firstOccurrences_induction {motive : List α → Prop} (nil : motive [])
    (cons : ∀ x xs, motive (xs.filter fun y => !y == x) → motive (x :: xs)) (xs : List α) :
    motive xs := by
  induction hlength : xs.length using Nat.strongRecOn generalizing xs with
  | ind length ih =>
    obtain _ | ⟨x, xs⟩ := xs
    · exact nil
    · refine cons x xs (ih _ ?_ _ rfl)
      rw [← hlength, List.length_cons, Nat.lt_succ_iff]
      exact List.length_filter_le _ xs

/-- The first occurrences of the elements with a property are those among all first occurrences. -/
lemma eraseDups_filter (p : α → Bool) (xs : List α) :
    (xs.filter p).eraseDups = xs.eraseDups.filter p := by
  induction xs using firstOccurrences_induction with
  | nil => rfl
  | cons x xs ih =>
    rw [List.eraseDups_cons, List.filter_cons, List.filter_cons]
    by_cases hx : p x = true
    · rw [if_pos hx, if_pos hx, List.eraseDups_cons, ← ih, List.filter_comm]
    · rw [if_neg hx, if_neg hx, ← ih, List.filter_filter]
      -- what is left out as equal to `x` does not have the property
      congr 1
      refine List.filter_congr fun y _ => ?_
      by_cases hy : y = x
      · rw [hy, Bool.eq_false_iff.2 hx, Bool.false_and]
      · simp [hy]

/-- What has no repetitions is not changed by taking them out. -/
lemma eraseDups_eraseDups (xs : List α) : xs.eraseDups.eraseDups = xs.eraseDups := by
  induction xs using firstOccurrences_induction with
  | nil => rfl
  | cons x xs ih =>
    rw [List.eraseDups_cons, List.eraseDups_cons, ← eraseDups_filter, List.filter_filter]
    simp only [Bool.and_self]
    rw [ih]

/-- A list taken away from another one may be taken away without its repetitions. -/
lemma removeAll_eraseDups (xs ys : List α) : xs.removeAll ys.eraseDups = xs.removeAll ys := by
  refine List.filter_congr fun x _ => ?_
  rw [Bool.eq_iff_iff]
  simp [List.mem_eraseDups]

/-- Repetitions may be taken out of the first part first. -/
lemma eraseDups_append_left (xs ys : List α) :
    (xs.eraseDups ++ ys).eraseDups = (xs ++ ys).eraseDups := by
  rw [List.eraseDups_append, List.eraseDups_append, eraseDups_eraseDups, removeAll_eraseDups]

omit [LawfulBEq α] in
/-- Taking out elements goes through the parts of a list. -/
lemma removeAll_append (xs ys zs : List α) :
    (xs ++ ys).removeAll zs = xs.removeAll zs ++ ys.removeAll zs :=
  List.filter_append ..

/-- Nothing is left of a list without its own elements. -/
lemma removeAll_self (xs : List α) : xs.removeAll xs = [] :=
  List.filter_eq_nil_iff.2 fun x hx => by simp [hx]

/-- What an element contributes to a joined list is not taken again from its later occurrences. -/
lemma removeAll_flatMap_filter (h : α → List β) (x : α) (xs : List α) :
    ((xs.filter fun y => !y == x).flatMap h).removeAll (h x) = (xs.flatMap h).removeAll (h x) := by
  induction xs with
  | nil => rfl
  | cons y xs ih =>
    rw [List.filter_cons, List.flatMap_cons, removeAll_append, ← ih]
    by_cases hy : y = x
    · rw [if_neg (by simp [hy]), hy, removeAll_self, List.nil_append]
    · rw [if_pos (by simp [hy]), List.flatMap_cons, removeAll_append]

/-- The first occurrences in a joined list are those in the join of first occurrences, taken for
first occurrences. -/
lemma eraseDups_flatMap (h : α → List β) (xs : List α) :
    (xs.flatMap h).eraseDups = (xs.eraseDups.flatMap fun x => (h x).eraseDups).eraseDups := by
  induction xs using firstOccurrences_induction with
  | nil => rfl
  | cons x xs ih =>
    rw [List.eraseDups_cons, List.flatMap_cons, List.flatMap_cons, List.eraseDups_append,
      List.eraseDups_append, eraseDups_eraseDups, removeAll_eraseDups, ← removeAll_flatMap_filter]
    congr 1
    rw [List.removeAll, List.removeAll, eraseDups_filter, eraseDups_filter, ih]

end FirstOccurrences

/-- The binding that a substitution amounts to: a dimension that is replaced has the value of what
it is replaced by. -/
def Binding.through (b : Binding) (f : Dim → Option Expr) : Binding := fun d =>
  match f d with
  | some r => (r.evalIn b).toOption
  | none => b d

namespace Expr

variable {b : Binding} {f : Dim → Option Expr} {e l r : Expr} {op : BinOp} {d : Dim} {n : Size}

/-- The dimensions of an expression as they occur, from left to right. -/
def dims : Expr → List Dim
  | .var d => [d]
  | .lit _ => []
  | .binary _ l r => l.dims ++ r.dims

/-- Every dimension that occurs has a value after the substitution, if it is replaced at all. -/
def Replaceable (b : Binding) (f : Dim → Option Expr) (e : Expr) : Prop :=
  ∀ d ∈ e.dims, ∀ r, f d = some r → ∃ n, r.evalIn b = .ok n

/-! ## Values -/

/-- The kind of error of an operation depends on the values of its operands alone. -/
lemma mapError_kind_combine (op : BinOp) (l r l' r' : Expr) (m n : Size) :
    (combine op l r m n).mapError ShapeError.kind =
      (combine op l' r' m n).mapError ShapeError.kind := by
  unfold combine
  split
  · rfl
  · cases op.apply? m n <;> rfl

/-- A dimension is bound to the value of its replacement. -/
lemma evalIn_substitute_var (h : ∀ r, f d = some r → ∃ n, r.evalIn b = .ok n) :
    ((Expr.var d).substitute f).evalIn b = (Expr.var d).evalIn (b.through f) := by
  rw [substitute_var, evalIn_var, sizeOfDim]
  cases hreplaced : f d with
  | none =>
    have hbound : b.through f d = b d := by rw [Binding.through, hreplaced]
    rw [hbound]
    rfl
  | some r =>
    obtain ⟨n, hn⟩ := h r hreplaced
    have hbound : b.through f d = some n := by
      rw [Binding.through, hreplaced]
      exact congrArg Except.toOption hn
    rw [hbound]
    exact hn

/-- Where every replacement has a value, evaluating after the substitution is evaluating under the
binding that the substitution amounts to. -/
lemma mapError_kind_evalIn_substitute (h : e.Replaceable b f) :
    ((e.substitute f).evalIn b).mapError ShapeError.kind =
      (e.evalIn (b.through f)).mapError ShapeError.kind := by
  induction e with
  | var d => rw [evalIn_substitute_var (h d List.mem_cons_self)]
  | lit n => rfl
  | binary op l r ihl ihr =>
    have hl := ihl fun d hd => h d (List.mem_append_left _ hd)
    have hr := ihr fun d hd => h d (List.mem_append_right _ hd)
    have hcombine := mapError_kind_combine op (l.substitute f) (r.substitute f) l r
    change ((l.substitute f).evalIn b >>= fun m => (r.substitute f).evalIn b >>= fun n =>
        combine op (l.substitute f) (r.substitute f) m n).mapError ShapeError.kind =
      (l.evalIn (b.through f) >>= fun m => r.evalIn (b.through f) >>= fun n =>
        combine op l r m n).mapError ShapeError.kind
    simp only [mapError_bind, hl, hr, hcombine]

/-- A value after the substitution is made of values of the replacements. -/
lemma replaceable_of_evalIn (h : (e.substitute f).evalIn b = .ok n) : e.Replaceable b f := by
  induction e generalizing n with
  | var d =>
    intro d' hd r hr
    obtain rfl := List.mem_singleton.1 hd
    rw [substitute_var, hr] at h
    exact ⟨n, h⟩
  | lit m => exact fun d hd => absurd hd List.not_mem_nil
  | binary op l r ihl ihr =>
    obtain ⟨m, k, hm, hk, -⟩ := evalIn_binary_eq_ok_iff.1 h
    exact fun d hd => (List.mem_append.1 hd).elim (ihl hm d) (ihr hk d)

/-! ## Free dimensions -/

/-- Collecting the dimensions of an expression continues a list without repetitions. -/
lemma map_symbol_collectVars {seen : List Dim}
    (h : (seen.map Dim.symbol).eraseDups = seen.map Dim.symbol) :
    (e.collectVars seen).map Dim.symbol = ((seen ++ e.dims).map Dim.symbol).eraseDups := by
  induction e generalizing seen with
  | var d =>
    have hseen : seen.any (·.sameAxis d) = true ↔ d.symbol ∈ seen.map Dim.symbol := by
      simp [Dim.sameAxis_iff]
    rw [collectVars, dims, List.map_append, List.eraseDups_append, h]
    by_cases hmem : d.symbol ∈ seen.map Dim.symbol
    · rw [if_pos (hseen.2 hmem), List.map_singleton, List.removeAll, List.filter_eq_nil_iff.2]
      · simp
      · simpa using hmem
    · rw [if_neg (mt hseen.1 hmem), List.map_append, List.map_singleton, List.removeAll,
        List.filter_eq_self.2]
      · rfl
      · simpa using hmem
  | lit n => rw [collectVars, dims, List.append_nil, h]
  | binary op l r ihl ihr =>
    have hl := ihl h
    have hagain : ((l.collectVars seen).map Dim.symbol).eraseDups =
        (l.collectVars seen).map Dim.symbol := by
      rw [hl, eraseDups_eraseDups]
    rw [collectVars, ihr hagain, List.map_append, hl, eraseDups_append_left, dims,
      ← List.map_append, List.append_assoc]

/-- The symbols of the free dimensions are those of the occurring ones, without repetitions. -/
lemma map_symbol_freeVars (e : Expr) :
    e.freeVars.map Dim.symbol = (e.dims.map Dim.symbol).eraseDups :=
  map_symbol_collectVars rfl

/-- The dimensions after a substitution are those of the replacements, in the order of what they
replace. -/
lemma dims_substitute (f : Dim → Option Expr) (e : Expr) :
    (e.substitute f).dims = e.dims.flatMap fun d => ((f d).getD (.var d)).dims := by
  induction e with
  | var d => rw [substitute_var, dims, List.flatMap_singleton]
  | lit n => rfl
  | binary op l r ihl ihr => rw [substitute_binary, dims, dims, ihl, ihr, List.flatMap_append]

/-- Where replacements depend on symbols alone, the free dimensions of the result are those of the
replacements. -/
lemma map_symbol_freeVars_substitute (g : String → Option Expr) (e : Expr) :
    (e.substitute fun d => g d.symbol).freeVars.map Dim.symbol =
      ((e.freeVars.flatMap fun d => ((g d.symbol).getD (.var d)).freeVars).map
        Dim.symbol).eraseDups := by
  -- the symbols that a symbol is replaced by, with their repetitions
  let replaced (symbol : String) : List String :=
    ((g symbol).map fun r => r.dims.map Dim.symbol).getD [symbol]
  have hdims (d : Dim) : ((g d.symbol).getD (.var d)).dims.map Dim.symbol = replaced d.symbol := by
    cases h : g d.symbol <;> simp [replaced, h, dims]
  calc (e.substitute fun d => g d.symbol).freeVars.map Dim.symbol
      = ((e.dims.map Dim.symbol).flatMap replaced).eraseDups := by
        simp only [map_symbol_freeVars, dims_substitute, List.map_flatMap, List.flatMap_map, hdims]
    _ = ((e.freeVars.map Dim.symbol).flatMap fun s => (replaced s).eraseDups).eraseDups := by
        rw [eraseDups_flatMap, map_symbol_freeVars]
    _ = _ := by
        rw [List.flatMap_map, List.map_flatMap]
        simp only [map_symbol_freeVars, hdims]

/-! ## Main statement -/

/-- Evaluation after a substitution is evaluation with the replaced dimensions bound to the values
of their replacements, up to the texts that errors quote, and it fails where one of these has no
value.  The free dimensions are then those of the replacements. -/
theorem evalIn_substitute (b : Binding) (f : Dim → Option Expr) (e : Expr) :
    (e.Replaceable b f → ((e.substitute f).evalIn b).mapError ShapeError.kind =
      (e.evalIn (b.through f)).mapError ShapeError.kind) ∧
    (¬e.Replaceable b f → ∃ err, (e.substitute f).evalIn b = .error err) ∧
    ∀ g : String → Option Expr, (e.substitute fun d => g d.symbol).freeVars.map Dim.symbol =
      ((e.freeVars.flatMap fun d => ((g d.symbol).getD (.var d)).freeVars).map
        Dim.symbol).eraseDups := by
  refine ⟨mapError_kind_evalIn_substitute, fun hnot => ?_, fun g =>
    map_symbol_freeVars_substitute g e⟩
  cases h : (e.substitute f).evalIn b with
  | error err => exact ⟨err, rfl⟩
  | ok n => exact absurd (replaceable_of_evalIn h) hnot

/-- Exchanging two dimensions exchanges their sizes, since what one is replaced by is not replaced
again; a replacement without a size is fatal. -/
theorem evalIn_substitute_exchanged :
    let depth : Dim := ⟨⟨"Depth", "d", some 9⟩, 0⟩
    let width : Dim := ⟨⟨"Width", "w", none⟩, 1⟩
    let b : Binding := fun d => if d.symbol = "w" then some 4 else none
    let exchange (s : String) : Option Expr :=
      if s = "d" then some (.var width) else if s = "w" then some (.var depth) else none
    let e : Expr := .sub (.var depth) (.mul (.var width) (.var depth))
    e.Replaceable b (fun d => exchange d.symbol) ∧
      (e.evalIn (b.through fun d => exchange d.symbol)).toOption = some (-32) ∧
      ((e.substitute fun d => exchange d.symbol).evalIn b).mapError ShapeError.kind = .ok (-32) ∧
      (∃ err, (e.substitute fun d => exchange d.symbol).evalIn (fun _ => none) = .error err) ∧
      (e.substitute fun d => exchange d.symbol).freeVars.map Dim.symbol = ["w", "d"] := by
  intro depth width b exchange e
  have hreplaceable : e.Replaceable b fun d => exchange d.symbol := by
    intro d hd r hr
    obtain rfl | rfl | rfl : d = depth ∨ d = width ∨ d = depth := by
      simpa [e, dims, Expr.sub, Expr.mul] using hd
    all_goals
      obtain rfl := Option.some.inj hr
      exact ⟨_, rfl⟩
  obtain ⟨hvalue, -, hfree⟩ := evalIn_substitute b (fun d => exchange d.symbol) e
  obtain ⟨-, hfails, -⟩ := evalIn_substitute (fun _ => none) (fun d => exchange d.symbol) e
  refine ⟨hreplaceable, rfl, (hvalue hreplaceable).trans rfl, hfails fun hall => ?_,
    (hfree exchange).trans rfl⟩
  obtain ⟨n, hn⟩ := hall depth List.mem_cons_self (.var width) rfl
  cases hn

end Expr

end ShapeAlgebra
