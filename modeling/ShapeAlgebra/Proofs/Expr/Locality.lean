import ShapeAlgebra.Proofs.Expr.Substitution

/-!
# What evaluation reads

The value of an expression depends on the sizes of its free dimensions and on nothing else.  The
collector goes through the tree from left to right with the dimensions that it has seen, and what it
carries along is that these are the first occurrences of the symbols so far: `FirstOccurrences` says
so for any list of dimensions.

A binding is asked for the dimensions that occur, so bindings that agree on these have the same
outcome, texts included.  Expressions that are the same ask for sizes of the same symbols, and then
they compute with the same numbers.  Where the two get the same sizes for a symbol they have
the same value or fail with an error of the same kind; the names in its text may differ.
-/

namespace ShapeAlgebra

/-! ## First occurrences -/

/-- In `dims` the dimension `d` occurs with no dimension of the symbol of `d'` in front of it. -/
def OccursBefore (dims : List Dim) (d d' : Dim) : Prop :=
  ∃ before after, dims = before ++ d :: after ∧ d'.symbol ∉ before.map Dim.symbol

/-- More dimensions behind do not change which of two occurs first. -/
lemma OccursBefore.append_right {dims : List Dim} {d d' : Dim} (h : OccursBefore dims d d')
    (more : List Dim) : OccursBefore (dims ++ more) d d' := by
  obtain ⟨before, after, rfl, hbefore⟩ := h
  exact ⟨before, after ++ more, by simp, hbefore⟩

/-- The dimensions `firsts` are the first ones of their symbols in `dims`, one for each symbol, and
in the order in which they occur there first. -/
structure FirstOccurrences (dims firsts : List Dim) : Prop where
  ordered : firsts.Pairwise (OccursBefore dims)
  nodup : (firsts.map Dim.symbol).Nodup
  complete : ∀ d ∈ dims, d.symbol ∈ firsts.map Dim.symbol
  first : ∀ d ∈ firsts, First (fun other => other.symbol = d.symbol) dims d

namespace FirstOccurrences

variable {dims firsts : List Dim} {d : Dim}

/-- There are no first occurrences where there is nothing. -/
lemma nil : FirstOccurrences [] [] where
  ordered := List.Pairwise.nil
  nodup := List.nodup_nil
  complete _ h := absurd h List.not_mem_nil
  first _ h := absurd h List.not_mem_nil

/-- A symbol that has not been collected has not occurred. -/
lemma occursBefore_of_notMem (h : FirstOccurrences dims firsts)
    (hd : d.symbol ∉ firsts.map Dim.symbol) {earlier : Dim} (hearlier : earlier ∈ firsts) :
    OccursBefore dims earlier d := by
  obtain ⟨before, after, rfl⟩ := List.append_of_mem (h.first earlier hearlier).mem
  refine ⟨before, after, rfl, fun hmem => hd ?_⟩
  obtain ⟨other, hother, hsame⟩ := List.mem_map.1 hmem
  rw [← hsame]
  exact h.complete other (List.mem_append_left _ hother)

/-- A further dimension of a symbol that has occurred is not a first one. -/
lemma seen (h : FirstOccurrences dims firsts) (hd : d.symbol ∈ firsts.map Dim.symbol) :
    FirstOccurrences (dims ++ [d]) firsts where
  ordered := h.ordered.imp fun hbefore => hbefore.append_right [d]
  nodup := h.nodup
  complete other hother := by
    rcases List.mem_append.1 hother with hmem | hlast
    · exact h.complete other hmem
    · rw [List.mem_singleton.1 hlast]
      exact hd
  first other hother := (h.first other hother).append_right [d]

/-- A further dimension of a new symbol is the first one of it. -/
lemma unseen (h : FirstOccurrences dims firsts) (hd : d.symbol ∉ firsts.map Dim.symbol) :
    FirstOccurrences (dims ++ [d]) (firsts ++ [d]) where
  ordered := by
    refine List.pairwise_append.2 ⟨h.ordered.imp fun hbefore => hbefore.append_right [d],
      List.pairwise_singleton _ _, fun earlier hearlier last hlast => ?_⟩
    obtain rfl := List.mem_singleton.1 hlast
    exact (h.occursBefore_of_notMem hd hearlier).append_right [last]
  nodup := by
    rw [List.map_append, List.map_singleton]
    exact List.nodup_append.2 ⟨h.nodup, List.nodup_singleton _, by
      rintro symbol hsymbol _ hlast rfl
      exact hd (List.mem_singleton.1 hlast ▸ hsymbol)⟩
  complete other hother := by
    rw [List.map_append, List.mem_append]
    rcases List.mem_append.1 hother with hmem | hlast
    · exact .inl (h.complete other hmem)
    · exact .inr (List.mem_map_of_mem hlast)
  first other hother := by
    rcases List.mem_append.1 hother with hmem | hlast
    · exact (h.first other hmem).append_right [d]
    · obtain rfl := List.mem_singleton.1 hlast
      refine First.append_left (fun earlier hearlier hsame => hd ?_) (First.singleton rfl)
      rw [← hsame]
      exact h.complete earlier hearlier

end FirstOccurrences

namespace Expr

variable {b b' : Binding} {e e' : Expr} {d : Dim} {symbol : String} {err : ShapeError}

/-- Collecting the dimensions of an expression carries first occurrences on. -/
lemma firstOccurrences_collectVars {before seen : List Dim} (h : FirstOccurrences before seen)
    (e : Expr) : FirstOccurrences (before ++ e.dims) (e.collectVars seen) := by
  induction e generalizing before seen with
  | var d =>
    have hseen : seen.any (·.sameAxis d) = true ↔ d.symbol ∈ seen.map Dim.symbol := by
      simp [Dim.sameAxis_iff]
    rw [collectVars, dims]
    by_cases hmem : d.symbol ∈ seen.map Dim.symbol
    · rw [if_pos (hseen.2 hmem)]
      exact h.seen hmem
    · rw [if_neg (mt hseen.1 hmem)]
      exact h.unseen hmem
  | lit n =>
    rw [collectVars, dims, List.append_nil]
    exact h
  | binary op l r ihl ihr =>
    rw [collectVars, dims, ← List.append_assoc]
    exact ihr (ihl h)

/-- The free dimensions of an expression are the first occurrences among its dimensions. -/
lemma firstOccurrences_freeVars (e : Expr) : FirstOccurrences e.dims e.freeVars :=
  firstOccurrences_collectVars FirstOccurrences.nil e

/-- What holds of the symbols of the free dimensions holds of all symbols that occur. -/
lemma forall_dims_of_freeVars {p : String → Prop} (h : ∀ d ∈ e.freeVars, p d.symbol) :
    ∀ d ∈ e.dims, p d.symbol := by
  intro d hd
  obtain ⟨first, hfirst, hsame⟩ := List.mem_map.1 (e.firstOccurrences_freeVars.complete d hd)
  rw [← hsame]
  exact h first hfirst

/-! ## Bindings that agree -/

/-- Bindings that agree on the dimensions of an expression have the same outcome on it. -/
lemma evalIn_congr (h : ∀ d ∈ e.dims, b d = b' d) : e.evalIn b = e.evalIn b' := by
  induction e with
  | var d => rw [evalIn_var, evalIn_var, sizeOfDim, sizeOfDim, h d List.mem_cons_self]
  | lit n => rfl
  | binary op l r ihl ihr =>
    have hl := ihl fun d hd => h d (List.mem_append_left _ hd)
    have hr := ihr fun d hd => h d (List.mem_append_right _ hd)
    rw [evalIn_binary, evalIn_binary, hl, hr]

/-! ## Expressions that are the same -/

/-- The size of a dimension, up to the text of the error. -/
lemma mapError_kind_sizeOfDim {d d' : Dim} (h : (b d).or d.size = (b' d').or d'.size) :
    (sizeOfDim b d).mapError ShapeError.kind = (sizeOfDim b' d').mapError ShapeError.kind := by
  unfold sizeOfDim
  rw [h]
  cases (b' d').or d'.size <;> rfl

/-- Expressions that are the same and get the same sizes for their symbols have the same value, or
fail with errors of the same kind. -/
lemma mapError_kind_evalIn_of_same (hsame : e.same e' = true)
    (h : ∀ d ∈ e.dims, ∀ d' ∈ e'.dims, d.symbol = d'.symbol →
      (b d).or d.size = (b' d').or d'.size) :
    (e.evalIn b).mapError ShapeError.kind = (e'.evalIn b').mapError ShapeError.kind := by
  induction e generalizing e' with
  | var d =>
    cases e' with
    | var d' =>
      have hsymbol : d.symbol = d'.symbol := Dim.sameAxis_iff.1 hsame
      exact mapError_kind_sizeOfDim (h d List.mem_cons_self d' List.mem_cons_self hsymbol)
    | lit _ => cases hsame
    | binary _ _ _ => cases hsame
  | lit n =>
    cases e' with
    | var _ => cases hsame
    | lit n' => rw [evalIn_lit, evalIn_lit, eq_of_beq hsame]
    | binary _ _ _ => cases hsame
  | binary op l r ihl ihr =>
    cases e' with
    | var _ => cases hsame
    | lit _ => cases hsame
    | binary op' l' r' =>
      rw [same_binary, Bool.and_eq_true, Bool.and_eq_true] at hsame
      obtain ⟨⟨hop, hl⟩, hr⟩ := hsame
      obtain rfl := eq_of_beq hop
      have hleft := ihl hl fun d hd d' hd' =>
        h d (List.mem_append_left _ hd) d' (List.mem_append_left _ hd')
      have hright := ihr hr fun d hd d' hd' =>
        h d (List.mem_append_right _ hd) d' (List.mem_append_right _ hd')
      change (l.evalIn b >>= fun m => r.evalIn b >>= fun n =>
          combine op l r m n).mapError ShapeError.kind =
        (l'.evalIn b' >>= fun m => r'.evalIn b' >>= fun n =>
          combine op l' r' m n).mapError ShapeError.kind
      simp only [mapError_bind, hleft, hright, mapError_kind_combine op l r l' r']

/-! ## Dimensions without a size -/

/-- An operation fails for its operands, not for a missing size. -/
lemma cause_ne_unsized_of_combine {op : BinOp} {l r : Expr} {m n : Size}
    (h : combine op l r m n = .error err) : err.cause ≠ .unsized symbol := by
  unfold combine at h
  split at h
  · obtain rfl := Except.error.inj h
    exact fun hcause => by cases hcause
  · split at h
    · cases h
    · obtain rfl := Except.error.inj h
      exact fun hcause => by cases hcause

/-- A size that is missed is that of a dimension that occurs and has none. -/
lemma exists_unsized_of_evalIn (h : e.evalIn b = .error err)
    (hcause : err.cause = .unsized symbol) :
    ∃ d ∈ e.dims, d.symbol = symbol ∧ b d = none ∧ d.size = none := by
  induction e with
  | var d =>
    rw [evalIn_var, sizeOfDim] at h
    split at h
    · cases h
    · rename_i hnone
      obtain rfl := Except.error.inj h
      obtain rfl := ShapeError.Cause.unsized.inj hcause
      exact ⟨d, List.mem_cons_self, rfl, Option.or_eq_none_iff.1 hnone⟩
  | lit n => cases h
  | binary op l r ihl ihr =>
    rcases bind_eq_error_iff.1 h with hl | ⟨m, -, hrest⟩
    · obtain ⟨d, hd, hunsized⟩ := ihl hl
      exact ⟨d, List.mem_append_left _ hd, hunsized⟩
    · rcases bind_eq_error_iff.1 hrest with hr | ⟨n, -, hop⟩
      · obtain ⟨d, hd, hunsized⟩ := ihr hr
        exact ⟨d, List.mem_append_right _ hd, hunsized⟩
      · exact absurd hcause (cause_ne_unsized_of_combine hop)

/-! ## Main statement -/

/-- The free dimensions of an expression are the first occurrences of its symbols, and its value is
made of their sizes.  Bindings by symbol that agree on them have the same outcome.  Under a binding
that has a size for each of them, all expressions that are the same have the same value or fail with
errors of the same kind, whatever sizes their dimensions are declared with.  A size that is missed
is that of a free dimension, which is not bound. -/
theorem evalIn_depends_on_freeVars (e : Expr) :
    FirstOccurrences e.dims e.freeVars ∧
      (∀ g g' : String → Option Size, (∀ d ∈ e.freeVars, g d.symbol = g' d.symbol) →
        (e.evalIn fun d => g d.symbol) = e.evalIn fun d => g' d.symbol) ∧
      (∀ g : String → Option Size, (∀ d ∈ e.freeVars, g d.symbol ≠ none) →
        ∀ e', e.same e' = true →
          (e.evalIn fun d => g d.symbol).mapError ShapeError.kind =
            (e'.evalIn fun d => g d.symbol).mapError ShapeError.kind) ∧
      ∀ (b : Binding) (err : ShapeError) (symbol : String), e.evalIn b = .error err →
        err.cause = .unsized symbol →
          symbol ∈ e.freeVars.map Dim.symbol ∧
            ∃ d ∈ e.dims, d.symbol = symbol ∧ b d = none ∧ d.size = none := by
  refine ⟨e.firstOccurrences_freeVars, fun g g' hagree => ?_, fun g hbound e' hsame => ?_,
    fun b err symbol herror hcause => ?_⟩
  · exact evalIn_congr (forall_dims_of_freeVars (p := fun s => g s = g' s) hagree)
  · refine mapError_kind_evalIn_of_same hsame fun d hd d' _ hsymbol => ?_
    have hd := forall_dims_of_freeVars (p := fun s => g s ≠ none) hbound d hd
    obtain ⟨n, hn⟩ := Option.ne_none_iff_exists'.1 hd
    rw [← hsymbol, hn, Option.some_or, Option.some_or]
  · obtain ⟨d, hd, rfl, hunsized⟩ := exists_unsized_of_evalIn herror hcause
    exact ⟨e.firstOccurrences_freeVars.complete d hd, d, hd, rfl, hunsized⟩

/-- Two instances of one symbol that were declared with different sizes: only the first one is free,
a binding covers both, and exchanging them changes nothing under it. -/
theorem evalIn_depends_on_freeVars_two_instances :
    let old : Dim := ⟨⟨"Depth", "d", some 9⟩, 0⟩
    let new : Dim := ⟨⟨"Depth", "d", some 4⟩, 2⟩
    let heads : Dim := ⟨⟨"Heads", "h", none⟩, 1⟩
    let e : Expr := .add (.binary .floorDiv (.var old) (.var heads)) (.var new)
    let exchanged : Expr := .add (.binary .floorDiv (.var new) (.var heads)) (.var old)
    let g (s : String) : Option Size := if s = "d" then some 7 else if s = "h" then some 2 else none
    let g' (s : String) : Option Size := if s = "d" then some 7 else some 2
    FirstOccurrences e.dims [old, heads] ∧
      (∀ d ∈ e.freeVars, g d.symbol = g' d.symbol) ∧
      (e.evalIn fun d => g d.symbol) = (e.evalIn fun d => g' d.symbol) ∧
      (∀ d ∈ e.freeVars, g d.symbol ≠ none) ∧ e.same exchanged = true ∧
      (exchanged.evalIn fun d => g d.symbol).mapError ShapeError.kind = .ok 10 ∧
      ∃ err, e.eval = .error err ∧ err.cause = .unsized "h" ∧
        "h" ∈ e.freeVars.map Dim.symbol := by
  intro old new heads e exchanged g g'
  obtain ⟨hfirst, hcongr, hsame, hunsized⟩ := evalIn_depends_on_freeVars e
  have hfree : e.freeVars = [old, heads] := by decide
  have hagree : ∀ d ∈ e.freeVars, g d.symbol = g' d.symbol := by
    rw [hfree]
    decide
  have hbound : ∀ d ∈ e.freeVars, g d.symbol ≠ none := by
    rw [hfree]
    decide
  have hexchanged : e.same exchanged = true := by decide
  have hvalue : (e.evalIn fun d => g d.symbol).mapError ShapeError.kind = .ok 10 := by rfl
  have herror : e.eval = .error ⟨(Expr.var heads).symbolic, .unsized "h"⟩ := by rfl
  exact ⟨hfree ▸ hfirst, hagree, hcongr g g' hagree, hbound, hexchanged,
    (hsame g hbound exchanged hexchanged).symm.trans hvalue, _, herror, rfl,
    (hunsized _ _ "h" herror rfl).1⟩

end Expr

end ShapeAlgebra
