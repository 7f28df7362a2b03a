import ShapeAlgebra.Proofs.Expr.Locality
import ShapeAlgebra.Proofs.Session.Currency
import ShapeAlgebra.Proofs.Slot.Alike

/-!
# Equality and order of expressions

Two expressions are equal when they are the same or have the same value, and they are ordered by
their values where both have one.  Equality is symmetric, and expressions that are equal in the
order are equal.  The rest of the laws rests on expressions that are the same having the same value,
which is so as long as no symbol comes with two sizes.  A symbol that is declared again, or given
another size, does come with two for whoever keeps the old dimension.  Then two expressions may be
equal for being the same and yet be ordered by their values, and equality, which goes by the one or
by the other, cannot be taken in two steps of which the one goes by the structure and the other by
the values.

Among the dimensions that are current in a session no symbol comes with two sizes: they are the last
registrations of their symbols.
-/

namespace ShapeAlgebra

/-- No symbol comes with two sizes among `dims`. -/
def SizesAgree (dims : List Dim) : Prop :=
  ∀ d ∈ dims, ∀ d' ∈ dims, d.symbol = d'.symbol → d.size = d'.size

namespace Expr

variable {a b c : Expr}

/-! ## What equality and order compare -/

/-- Two expressions have the same value. -/
def SameValue (a b : Expr) : Prop := ∃ n, a.eval = .ok n ∧ b.eval = .ok n

/-- If two expressions are the same then they have the same value, or none. -/
def Consistent (a b : Expr) : Prop := a.same b = true → a.eval.toOption = b.eval.toOption

/-- Having the same value is symmetric. -/
lemma SameValue.symm (h : SameValue a b) : SameValue b a := by
  obtain ⟨n, ha, hb⟩ := h
  exact ⟨n, hb, ha⟩

/-- Having the same value can be taken in two steps: there is just one value to have. -/
lemma SameValue.trans (hab : SameValue a b) (hbc : SameValue b c) : SameValue a c := by
  obtain ⟨n, ha, hb⟩ := hab
  obtain ⟨m, hb', hc⟩ := hbc
  rw [hb] at hb'
  obtain rfl := Except.ok.inj hb'
  exact ⟨n, ha, hc⟩

/-- Being the same is symmetric. -/
lemma same_symm (h : a.same b = true) : b.same a = true := by
  rwa [same_comm]

/-- Being the same can be taken in two steps, as it is being equal with symbols in place of
dimensions. -/
lemma same_trans (hab : a.same b = true) (hbc : b.same c = true) : a.same c = true :=
  same_iff_bySymbol_eq.2 ((same_iff_bySymbol_eq.1 hab).trans (same_iff_bySymbol_eq.1 hbc))

/-- The value, if there is one, as a value of the evaluation. -/
lemma toOption_eval_eq_some_iff {n : Size} : a.eval.toOption = some n ↔ a.eval = .ok n := by
  cases a.eval <;> simp [Except.toOption]

/-- A value is passed on to an expression that is the same, and from there to what has the value. -/
lemma Consistent.sameValue_trans (h : Consistent a b) (hab : a.same b = true)
    (hbc : SameValue b c) : SameValue a c := by
  obtain ⟨n, hb, hc⟩ := hbc
  refine ⟨n, ?_, hc⟩
  rw [← toOption_eval_eq_some_iff, h hab, toOption_eval_eq_some_iff]
  exact hb

/-- Consistency does not depend on which expression comes first. -/
lemma Consistent.symm (h : Consistent a b) : Consistent b a :=
  fun hba => (h (same_symm hba)).symm

/-- Expressions are equal when they are the same or have the same value. -/
lemma equiv_iff : a.equiv b = true ↔ a.same b = true ∨ SameValue a b := by
  unfold equiv SameValue
  cases a.eval with
  | error _ => cases b.eval <;> simp
  | ok m =>
    cases b.eval with
    | error _ => simp
    | ok n => simp [Eq.comm (a := n)]

/-- Expressions are equal in the order when they have the same value, or are the same and not both
have a value. -/
lemma compare?_eq_some_eq_iff :
    a.compare? b = some .eq ↔
      SameValue a b ∨ a.same b = true ∧ ¬∃ m n, a.eval = .ok m ∧ b.eval = .ok n := by
  unfold compare? SameValue
  cases a.eval with
  | error _ => cases b.eval <;> simp
  | ok m =>
    cases b.eval with
    | error _ => simp
    | ok n => simp [Int64.toInt_inj, Eq.comm (a := n)]

/-! ## Laws -/

/-- Equality does not depend on which expression comes first. -/
lemma equiv_comm (a b : Expr) : a.equiv b = b.equiv a := by
  rw [Bool.eq_iff_iff, equiv_iff, equiv_iff, same_comm]
  exact or_congr_right ⟨SameValue.symm, SameValue.symm⟩

/-- Equality in the order is equality. -/
lemma equiv_of_compare? (h : a.compare? b = some .eq) : a.equiv b = true := by
  rw [compare?_eq_some_eq_iff] at h
  rw [equiv_iff]
  rcases h with hvalue | ⟨hsame, -⟩
  · exact .inr hvalue
  · exact .inl hsame

/-- Expressions that are equal and not equal in the order are the same with different values. -/
lemma equiv_and_compare?_ne_iff :
    a.equiv b = true ∧ a.compare? b ≠ some .eq ↔
      a.same b = true ∧ ∃ m n, a.eval = .ok m ∧ b.eval = .ok n ∧ m ≠ n := by
  rw [Ne, equiv_iff, compare?_eq_some_eq_iff, not_or]
  constructor
  · rintro ⟨hequal, hvalue, hboth⟩
    have hsame : a.same b = true := hequal.resolve_right hvalue
    rw [not_and, not_not] at hboth
    obtain ⟨m, n, ha, hb⟩ := hboth hsame
    exact ⟨hsame, m, n, ha, hb, fun heq => hvalue ⟨n, heq ▸ ha, hb⟩⟩
  · rintro ⟨hsame, m, n, ha, hb, hne⟩
    refine ⟨.inl hsame, ?_, fun h => h.2 ⟨m, n, ha, hb⟩⟩
    rintro ⟨k, ha', hb'⟩
    rw [ha] at ha'
    rw [hb] at hb'
    exact hne ((Except.ok.inj ha').trans (Except.ok.inj hb').symm)

/-- Equality can be taken in two steps if both of them rest on the same ground: on the structure of
expressions or on their values. -/
lemma equiv_iff_of_equiv (h : a.equiv b = true) (h' : b.equiv c = true) :
    a.equiv c = true ↔
      a.same b = true ∧ b.same c = true ∨ SameValue a b ∧ SameValue b c := by
  rw [equiv_iff] at h h' ⊢
  constructor
  · intro hac
    rcases h with hsame | hvalue
    · rcases h' with hsame' | hvalue'
      · exact .inl ⟨hsame, hsame'⟩
      · exact hac.imp (fun hac => ⟨hsame, same_trans (same_symm hsame) hac⟩)
          fun hac => ⟨hac.trans hvalue'.symm, hvalue'⟩
    · rcases h' with hsame' | hvalue'
      · exact hac.imp (fun hac => ⟨same_trans hac (same_symm hsame'), hsame'⟩)
          fun hac => ⟨hvalue, hvalue.symm.trans hac⟩
      · exact .inr ⟨hvalue, hvalue'⟩
  · exact Or.imp (fun hsame => same_trans hsame.1 hsame.2) fun hvalue => hvalue.1.trans hvalue.2

/-- Equality can be taken in two steps when neither or both of them rest on the structure, and where
expressions that are the same have the same value. -/
lemma equiv_trans
    (hground : (a.same b = true ↔ b.same c = true) ∨ Consistent a b ∧ Consistent b c)
    (h : a.equiv b = true) (h' : b.equiv c = true) : a.equiv c = true := by
  rw [equiv_iff_of_equiv h h']
  rw [equiv_iff] at h h'
  rcases hground with hboth | ⟨hab, hbc⟩
  · by_cases hsame : a.same b = true
    · exact .inl ⟨hsame, hboth.1 hsame⟩
    · exact .inr ⟨h.resolve_left hsame, h'.resolve_left (mt hboth.2 hsame)⟩
  · rcases h with hsame | hvalue
    · refine h'.imp (fun hsame' => ⟨hsame, hsame'⟩) fun hvalue' => ?_
      exact ⟨(hab.sameValue_trans hsame hvalue').trans hvalue'.symm, hvalue'⟩
    · refine .inr ⟨hvalue, h'.elim (fun hsame' => ?_) id⟩
      have hca : SameValue c a := hbc.symm.sameValue_trans (same_symm hsame') hvalue.symm
      exact (hca.trans hvalue).symm

/-- Equality of `a` and `b` is equality in the order, does not depend on which of the two comes
first, and carries over to what `b` is equal to. -/
structure Lawful (a b c : Expr) : Prop where
  equiv_iff_compare? : a.equiv b = true ↔ a.compare? b = some .eq
  symm : a.equiv b = true → b.equiv a = true
  trans : a.equiv b = true → b.equiv c = true → a.equiv c = true

/-- The laws hold where expressions that are the same have the same value. -/
lemma lawful_of_consistent (hab : Consistent a b) (hbc : Consistent b c) : Lawful a b c where
  equiv_iff_compare? := by
    refine ⟨fun hequal => ?_, equiv_of_compare?⟩
    by_contra hne
    obtain ⟨hsame, m, n, ha, hb, hdiffer⟩ := equiv_and_compare?_ne_iff.1 ⟨hequal, hne⟩
    have hvalue := hab hsame
    rw [ha, hb] at hvalue
    exact hdiffer (Option.some.inj hvalue)
  symm h := by
    rw [equiv_comm]
    exact h
  trans := equiv_trans (.inr ⟨hab, hbc⟩)

/-! ## Sizes that agree -/

/-- Where no symbol comes with two sizes, expressions that are the same have the same value. -/
lemma consistent_of_sizesAgree {dims : List Dim} (h : SizesAgree dims) (ha : a.dims ⊆ dims)
    (hb : b.dims ⊆ dims) : Consistent a b := by
  intro hsame
  have hkind : a.eval.mapError ShapeError.kind = b.eval.mapError ShapeError.kind :=
    mapError_kind_evalIn_of_same hsame fun d hd d' hd' hsymbol => by
      rw [Option.none_or, Option.none_or]
      exact h d (ha hd) d' (hb hd') hsymbol
  rw [← toOption_mapError a.eval ShapeError.kind, hkind, toOption_mapError]

/-- The laws hold where no symbol comes with two sizes. -/
lemma lawful_of_sizesAgree (h : SizesAgree (a.dims ++ b.dims ++ c.dims)) : Lawful a b c := by
  have ha : a.dims ⊆ a.dims ++ b.dims ++ c.dims := fun d hd =>
    List.mem_append_left _ (List.mem_append_left _ hd)
  have hb : b.dims ⊆ a.dims ++ b.dims ++ c.dims := fun d hd =>
    List.mem_append_left _ (List.mem_append_right _ hd)
  have hc : c.dims ⊆ a.dims ++ b.dims ++ c.dims := fun d hd => List.mem_append_right _ hd
  exact lawful_of_consistent (consistent_of_sizesAgree h ha hb) (consistent_of_sizesAgree h hb hc)

end Expr

namespace Session

variable {s : Session} {history : List Dim}

/-- Of the handles of one symbol, all those that are current are equal. -/
lemma Remembers.eq_of_isCurrent (h : s.Remembers history) {d d' : Dim} (hd : d ∈ s.handles)
    (hd' : d' ∈ s.handles) (hsymbol : d.symbol = d'.symbol)
    (hcurrent : s.registry.isCurrent d = true) (hcurrent' : s.registry.isCurrent d' = true) :
    d = d' := by
  obtain ⟨last, hlast, hiff⟩ := h.isCurrent_iff hd
  obtain ⟨last', hlast', hiff'⟩ := h.isCurrent_iff hd'
  have hmem := (Registry.mem_of_latest? hlast).1
  rw [hsymbol, hlast'] at hlast
  obtain rfl := Option.some.inj hlast
  have heq : last' = d :=
    h.records.eq_of_sameInstance hmem (h.handles_subset hd) (hiff.1 hcurrent)
  have heq' : last' = d' :=
    h.records.eq_of_sameInstance hmem (h.handles_subset hd') (hiff'.1 hcurrent')
  exact heq.symm.trans heq'

/-- Among the current handles of a session no symbol comes with two sizes. -/
lemma Remembers.sizesAgree (h : s.Remembers history) {dims : List Dim}
    (hdims : ∀ d ∈ dims, d ∈ s.handles ∧ s.registry.isCurrent d = true) : SizesAgree dims := by
  intro d hd d' hd' hsymbol
  obtain ⟨hhandle, hcurrent⟩ := hdims d hd
  obtain ⟨hhandle', hcurrent'⟩ := hdims d' hd'
  rw [h.eq_of_isCurrent hhandle hhandle' hsymbol hcurrent hcurrent']

/-! ## Main statement -/

/-- Equality of expressions is symmetric, and it holds wherever the order says so, whatever has been
declared again in the session that their dimensions come from.  Where it holds and the order says
otherwise, the expressions are the same and have different values.  It can be taken in two steps if
and only if both are steps between expressions that are the same or both are steps between equal
values: so whenever neither or both of them are between expressions that are the same, and whenever
expressions that are the same have the same value.  Where no symbol comes with two sizes, and so
among the current handles of a session, equality and order obey all laws. -/
theorem equiv_lawful_where_sizes_agree (policy : Policy) (cs : List Command) (a b c : Expr) :
    let s := performAll { registry := { policy := policy } } cs
    a.equiv b = b.equiv a ∧
      (a.compare? b = some .eq → a.equiv b = true) ∧
      (a.equiv b = true ∧ a.compare? b ≠ some .eq ↔
        a.same b = true ∧ ∃ m n, a.eval = .ok m ∧ b.eval = .ok n ∧ m ≠ n) ∧
      (a.equiv b = true → b.equiv c = true →
        (a.equiv c = true ↔
          a.same b = true ∧ b.same c = true ∨ a.SameValue b ∧ b.SameValue c)) ∧
      ((a.same b = true ↔ b.same c = true) ∨ a.Consistent b ∧ b.Consistent c →
        a.equiv b = true → b.equiv c = true → a.equiv c = true) ∧
      (SizesAgree (a.dims ++ b.dims ++ c.dims) → Expr.Lawful a b c) ∧
      ((∀ d ∈ a.dims ++ b.dims ++ c.dims, d ∈ s.handles ∧ s.registry.isCurrent d = true) →
        Expr.Lawful a b c) := by
  intro s
  have hs := remembers_performAll policy cs
  exact ⟨a.equiv_comm b, Expr.equiv_of_compare?, Expr.equiv_and_compare?_ne_iff,
    Expr.equiv_iff_of_equiv, Expr.equiv_trans, Expr.lawful_of_sizesAgree,
    fun hdims => Expr.lawful_of_sizesAgree (hs.sizesAgree hdims)⟩

/-- A batch that has been resized three times: expressions over the current handle obey the laws,
the three stale handles are equal to one another against the order, and a number is equal to one of
them and not to the next. -/
theorem equiv_lawful_where_sizes_agree_resized :
    let cs : List Command :=
      [.declare "Batch(b):20 Depth(d)", .updateSizes "b:32", .updateSizes "b:64",
        .updateSizes "b:16"]
    let s := performAll { registry := { policy := .strict } } cs
    let x : Expr := .var ⟨⟨"Batch", "b", some 20⟩, 0⟩
    let depth : Expr := .var ⟨⟨"Depth", "d", none⟩, 1⟩
    let y : Expr := .var ⟨⟨"Batch", "b", some 32⟩, 2⟩
    let z : Expr := .var ⟨⟨"Batch", "b", some 64⟩, 3⟩
    let new : Expr := .var ⟨⟨"Batch", "b", some 16⟩, 4⟩
    let twice : Expr := new.mul (.lit 2)
    s.handles.map Expr.var = [x, depth, y, z, new] ∧
      s.handles.map s.registry.isCurrent = [false, true, false, false, true] ∧
      (∀ d ∈ twice.dims ++ (new.add new).dims ++ depth.dims,
        d ∈ s.handles ∧ s.registry.isCurrent d = true) ∧
      Expr.Lawful twice (new.add new) depth ∧
      (twice.compare? (new.add new) = some .eq ∧ twice.equiv (new.add new) = true) ∧
      ((new.add new).Consistent (.lit 32) ∧ Expr.Consistent (.lit 32) twice ∧
        (new.add new).equiv twice = true) ∧
      (x.equiv y = true ∧ y.equiv z = true ∧ x.equiv z = true) ∧
      (x.compare? y ≠ some .eq ∧ y.compare? z ≠ some .eq) ∧
      (Expr.equiv (.lit 20) x = true ∧ ¬Expr.equiv (.lit 20) y = true) := by
  intro cs s x depth y z new twice
  have hlaws := equiv_lawful_where_sizes_agree .strict cs
  obtain ⟨-, hequal, -, -, -, -, hcurrent⟩ := hlaws twice (new.add new) depth
  obtain ⟨-, -, -, -, hvalues, -, -⟩ := hlaws (new.add new) (.lit 32) twice
  obtain ⟨-, -, hbeyond, -, hstale, -, -⟩ := hlaws x y z
  obtain ⟨-, -, hbeyond', -, -, -, -⟩ := hlaws y z new
  obtain ⟨-, -, -, hmixed, -, -, -⟩ := hlaws (.lit 20) x y
  have hdims : ∀ d ∈ twice.dims ++ (new.add new).dims ++ depth.dims,
      d ∈ s.handles ∧ s.registry.isCurrent d = true := by decide +kernel
  have hvalue : twice.compare? (new.add new) = some .eq := by decide
  have hleft : (new.add new).Consistent (.lit 32) := fun _ => by decide
  have hright : Expr.Consistent (.lit 32) twice := fun _ => by decide
  obtain ⟨hxy, hne⟩ := hbeyond.2 ⟨by decide, 20, 32, by rfl, by rfl, by decide⟩
  obtain ⟨hyz, hne'⟩ := hbeyond'.2 ⟨by decide, 32, 64, by rfl, by rfl, by decide⟩
  have hnumber : Expr.equiv (.lit 20) x = true := by decide
  refine ⟨by decide +kernel, by decide +kernel, hdims, hcurrent hdims, ⟨hvalue, hequal hvalue⟩,
    ⟨hleft, hright, hvalues (.inr ⟨hleft, hright⟩) (by decide) (by decide)⟩,
    ⟨hxy, hyz, hstale (.inl (by decide)) hxy hyz⟩, ⟨hne, hne'⟩, hnumber, ?_⟩
  -- One of the two steps is between values that are equal, the other is not.
  rw [hmixed hnumber hxy]
  rintro (⟨hsame, -⟩ | ⟨-, n, hx, hy⟩)
  · exact absurd hsame (by decide)
  · have hx' : x.eval = .ok 20 := by rfl
    have hy' : y.eval = .ok 32 := by rfl
    rw [hx'] at hx
    rw [hy'] at hy
    exact absurd ((Except.ok.inj hx).trans (Except.ok.inj hy).symm) (by decide)

/-- The old and the new instance of a resized dimension are equal and yet ordered, and a number is
equal to one of them and not to the other. -/
theorem equiv_not_lawful_across_instances :
    let s := performAll {} [.declare "Batch(b):20", .updateSizes "b:32"]
    ∃ old new : Dim, s.handles = [old, new] ∧
      (Expr.var old).equiv (.var new) = true ∧
      (Expr.var old).compare? (.var new) = some .lt ∧
      (Expr.lit 20).equiv (.var old) = true ∧ (Expr.lit 20).equiv (.var new) = false ∧
      ¬Expr.Lawful (.var old) (.var new) (.var new) ∧
      ¬Expr.Lawful (.lit 20) (.var old) (.var new) := by
  intro s
  have hhandles : s.handles = [⟨⟨"Batch", "b", some 20⟩, 0⟩, ⟨⟨"Batch", "b", some 32⟩, 1⟩] := by
    decide +kernel
  refine ⟨_, _, hhandles, by decide, by decide, by decide, by decide, fun h => ?_, fun h => ?_⟩
  · exact absurd (h.equiv_iff_compare?.1 (by decide)) (by decide)
  · exact absurd (h.trans (by decide) (by decide)) (by decide)

end Session

end ShapeAlgebra
