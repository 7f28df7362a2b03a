import ShapeAlgebra.Arith.Compile
import ShapeAlgebra.Proofs.Outcome

/-!
# The first fault of a term

A term cannot be compiled when a symbol in it is not declared, when it divides without rounding, or
when it rounds down a quotient by the number zero.  These are faults of single subterms.  A term
without any compiles, and one with faults is refused for the first of them, where a subterm comes
behind its operands and a right operand behind the left one.
-/

namespace ShapeAlgebra.Term

/-! ## Faults -/

/-- The subterms of a term, each behind its operands. -/
def subterms : Term → List Term
  | .ident symbol => [.ident symbol]
  | .int value => [.int value]
  | .neg operand => operand.subterms ++ [.neg operand]
  | .binary op l r => l.subterms ++ (r.subterms ++ [.binary op l r])

/-- The faults that a term can have by itself, whatever its operands are. -/
inductive Faulty (r : Registry) : Term → Prop where
  | undeclared {symbol : String} : r.find? symbol = none → Faulty r (.ident symbol)
  | trueDivision (lhs rhs : Term) : Faulty r (.binary .trueDiv lhs rhs)
  /-- The divisor is the number zero, or a single negation of it. -/
  | zeroDivisor (lhs : Term) {rhs : Term} : rhs = .int 0 ∨ rhs = .neg (.int 0) →
    Faulty r (.binary .floorDiv lhs rhs)

/-- What is reported for the fault of a term; a division is shown with its operands compiled. -/
inductive Blames (r : Registry) (spec : String) : Term → ShapeError.Cause → Prop where
  | undeclared (symbol : String) : Blames r spec (.ident symbol) (.notDeclared symbol)
  | trueDivision {lhs rhs : Term} {le re : Expr} : lhs.compile r spec = .ok le →
    rhs.compile r spec = .ok re →
      Blames r spec (.binary .trueDiv lhs rhs)
        (.operand (.trueDivision le.symbolic re.symbolic))
  | zeroDivisor (lhs rhs : Term) :
    Blames r spec (.binary .floorDiv lhs rhs) (.operand .zeroLiteral)

variable {r : Registry} {spec : String} {s t : Term} {ts us : List Term}

/-- The first of the terms `ts` that has a fault. -/
def FirstFaulty (r : Registry) (ts : List Term) (s : Term) : Prop :=
  ∃ before after, ts = before ++ s :: after ∧ s.Faulty r ∧ ∀ u ∈ before, ¬ u.Faulty r

/-- No term among `ts` has a fault. -/
def Sound (r : Registry) (ts : List Term) : Prop := ∀ u ∈ ts, ¬ u.Faulty r

/-! ## Laws of faults -/

/-- Two lists of terms are sound if and only if both are. -/
lemma sound_append_iff : Sound r (ts ++ us) ↔ Sound r ts ∧ Sound r us := by
  simp only [Sound, List.mem_append, or_imp, forall_and]

/-- A single term is sound if it is not faulty. -/
lemma sound_singleton_iff : Sound r [t] ↔ ¬ t.Faulty r := by
  simp only [Sound, List.mem_singleton, forall_eq]

namespace FirstFaulty

/-- The first faulty term is one of the terms. -/
lemma mem (h : FirstFaulty r ts s) : s ∈ ts := First.mem h

/-- What comes behind the first faulty term does not change which one is first. -/
lemma append_right (h : FirstFaulty r ts s) (us : List Term) : FirstFaulty r (ts ++ us) s :=
  First.append_right h us

/-- Sound terms in front do not change which one is the first faulty one. -/
lemma append_left (hts : Sound r ts) (h : FirstFaulty r us s) : FirstFaulty r (ts ++ us) s :=
  First.append_left hts h

/-- A faulty term is the first one where it is the only one. -/
lemma singleton (hs : s.Faulty r) : FirstFaulty r [s] s := First.singleton hs

/-- Terms with a faulty one among them are not sound. -/
lemma not_sound (h : FirstFaulty r ts s) : ¬ Sound r ts := by
  intro hsound
  exact hsound s h.mem (First.holds h)

end FirstFaulty

/-- A number compiles whatever it is. -/
lemma not_faulty_int (value : Size) : ¬ Faulty r (.int value) := fun h => nomatch h

/-- A negation is never at fault itself, only what it negates can be. -/
lemma not_faulty_neg (operand : Term) : ¬ Faulty r (.neg operand) := fun h => nomatch h

/-! ## Compiling -/

/-- The operator of expressions that an operator is compiled to. -/
def Op.binOp? : Op → Option BinOp
  | .add => some .add
  | .sub => some .sub
  | .mul => some .mul
  | .floorDiv => some .floorDiv
  | .trueDiv => none

/-- An operator that compiles makes of its operands the binary expression of the operator that it
stands for. -/
lemma Op.binOp?_of_compile {op : Op} {le re e : Expr} (h : op.compile spec le re = .ok e) :
    ∃ o, op.binOp? = some o ∧ e = .binary o le re := by
  cases op with
  | add | sub | mul =>
    obtain rfl := Except.ok.inj h
    exact ⟨_, rfl, rfl⟩
  | floorDiv =>
    have hdiv : le.floorDiv re = .ok e := mapError_eq_ok_iff.1 h
    unfold Expr.floorDiv at hdiv
    split at hdiv
    · cases hdiv
    · obtain rfl := Except.ok.inj hdiv
      exact ⟨_, rfl, rfl⟩
  | trueDiv => cases h

/-- A term is compiled to the number zero when it is the number zero or its negation. -/
lemma eq_zero_iff_of_compile {e : Expr} (h : t.compile r spec = .ok e) :
    e = .lit 0 ↔ t = .int 0 ∨ t = .neg (.int 0) := by
  cases t using Term.compile.fun_cases with
  | case1 symbol =>
    obtain ⟨d, _, rfl⟩ := map_eq_ok_iff.1 h
    simp
  | case2 value =>
    obtain rfl := Except.ok.inj h
    simp
  | case3 value =>
    obtain rfl := Except.ok.inj h
    have hneg : -value = 0 ↔ value = 0 := by
      rw [← Int64.neg_inj (b := 0), Int64.neg_neg, Int64.neg_zero]
    simpa using hneg
  | case4 operand hint =>
    rw [Term.compile.eq_4 _ _ _ hint] at h
    obtain ⟨e', _, hmul⟩ := bind_eq_ok_iff.1 h
    obtain rfl := Except.ok.inj hmul
    -- any other negation is a product, and `hint` says that it is no number that is negated
    simpa [Expr.mul] using fun heq => hint 0 heq
  | case5 op lhs rhs =>
    obtain ⟨le, _, hrest⟩ := bind_eq_ok_iff.1 h
    obtain ⟨re, _, hop⟩ := bind_eq_ok_iff.1 hrest
    obtain ⟨o, _, rfl⟩ := Op.binOp?_of_compile hop
    simp

/-- How compiling ends: with an expression, or with the first fault of the term. -/
inductive Outcome (r : Registry) (spec : String) (t : Term) : Prop where
  | compiles (e : Expr) : t.compile r spec = .ok e → Sound r t.subterms → Outcome r spec t
  | blames (s : Term) (cause : ShapeError.Cause) : FirstFaulty r t.subterms s →
    t.compile r spec = .error ⟨spec, cause⟩ → Blames r spec s cause → Outcome r spec t

/-- How an operator is compiled behind operands without faults. -/
lemma outcome_binary (op : Op) {lhs rhs : Term} {le re : Expr}
    (hle : lhs.compile r spec = .ok le) (hre : rhs.compile r spec = .ok re)
    (hl : Sound r lhs.subterms) (hr : Sound r rhs.subterms) :
    Outcome r spec (.binary op lhs rhs) := by
  have hcompile : (Term.binary op lhs rhs).compile r spec = op.compile spec le re := by
    rw [Term.compile.eq_5, hle, hre]
    rfl
  have hsound (hself : ¬ Faulty r (.binary op lhs rhs)) :
      Sound r (Term.binary op lhs rhs).subterms :=
    sound_append_iff.2 ⟨hl, sound_append_iff.2 ⟨hr, sound_singleton_iff.2 hself⟩⟩
  have hfirst (hself : Faulty r (.binary op lhs rhs)) :
      FirstFaulty r (Term.binary op lhs rhs).subterms (.binary op lhs rhs) :=
    .append_left hl (.append_left hr (.singleton hself))
  -- both operands are sound, so that only the operation itself can be at fault
  cases op with
  | add | sub | mul => exact .compiles _ hcompile (hsound fun h => nomatch h)
  | trueDiv => exact .blames _ _ (hfirst (.trueDivision lhs rhs)) hcompile (.trueDivision hle hre)
  | floorDiv =>
    by_cases hzero : re = .lit 0
    · refine .blames _ _ (hfirst (.zeroDivisor lhs ((eq_zero_iff_of_compile hre).1 hzero))) ?_
        (.zeroDivisor lhs rhs)
      rw [hcompile]
      simp [Op.compile, Expr.floorDiv, hzero, Except.mapError, ShapeError.inSpec]
    · refine .compiles (.binary .floorDiv le re) ?_ (hsound fun h => ?_)
      · rw [hcompile]
        simp [Op.compile, Expr.floorDiv, hzero, Except.mapError]
      · cases h with
        | zeroDivisor _ hdivisor => exact hzero ((eq_zero_iff_of_compile hre).2 hdivisor)

/-- Compiling ends with an expression, or with the first fault of the term. -/
lemma outcome (r : Registry) (spec : String) (t : Term) : Outcome r spec t := by
  induction t using Term.compile.induct with
  | case1 symbol =>
    cases hfind : r.find? symbol with
    | some d =>
      refine .compiles (.var d) (by simp [compile, Registry.resolve, hfind, Except.map]) ?_
      refine sound_singleton_iff.2 fun h => ?_
      cases h with
      | undeclared hnone =>
        rw [hfind] at hnone
        cases hnone
    | none =>
      refine .blames _ _ (.singleton (.undeclared hfind)) ?_ (.undeclared symbol)
      simp [compile, Registry.resolve, hfind, Except.map]
  | case2 value =>
    exact .compiles (.lit value) rfl (sound_singleton_iff.2 (not_faulty_int value))
  | case3 value =>
    refine .compiles (.lit (-value)) rfl (sound_append_iff.2 ⟨?_, ?_⟩)
    · exact sound_singleton_iff.2 (not_faulty_int value)
    · exact sound_singleton_iff.2 (not_faulty_neg (.int value))
  | case4 operand hint ih =>
    cases ih with
    | compiles e he hsound =>
      refine .compiles (Expr.mul (.lit (-1)) e) ?_ (sound_append_iff.2 ⟨hsound, ?_⟩)
      · rw [Term.compile.eq_4 _ _ _ hint, he]
        rfl
      · exact sound_singleton_iff.2 (not_faulty_neg operand)
    | blames s cause hfirst herror hblames =>
      refine .blames s cause (hfirst.append_right _) ?_ hblames
      rw [Term.compile.eq_4 _ _ _ hint, herror]
      rfl
  | case5 op lhs rhs ihl ihr =>
    cases ihl with
    | blames s cause hfirst herror hblames =>
      refine .blames s cause (hfirst.append_right _) ?_ hblames
      rw [Term.compile.eq_5, herror]
      rfl
    | compiles le hle hlsound =>
      cases ihr with
      | blames s cause hfirst herror hblames =>
        -- the left operand is sound, so that the first fault is that of the right one
        refine .blames s cause (.append_left hlsound (hfirst.append_right _)) ?_ hblames
        rw [Term.compile.eq_5, hle, herror]
        rfl
      | compiles re hre hrsound => exact outcome_binary op hle hre hlsound hrsound

end ShapeAlgebra.Term
