import ShapeAlgebra.Arith.Reader
import ShapeAlgebra.Proofs.Arith.Lexing

/-!
# The reader follows the grammar

The reader of slot arithmetic accepts exactly what the grammar generates, and answers with the tree.

That it accepts what is generated is an induction over derivations: what is generated at a level
takes every state that awaits it to the state behind its tree.  That it accepts nothing else is an
invariant of its steps: a state `Reads` the tokens that led to it, each part of a frame those of a
derivation of its level.  Since an operand has to be followed by an operator, and a division by an
operand, no two tokens that the reader accepts run together in a text.
-/

namespace ShapeAlgebra.Term

variable {ts us : List Token} {t : Term}

/-- Minus signs inside others are minus signs. -/
lemma negated_neg (n : Nat) (t : Term) : negated n (.neg t) = .neg (negated n t) := by
  induction n with
  | zero => rfl
  | succ n ih => rw [negated_succ, negated_succ, ih]

/-! ## What is generated is accepted -/

/-- The tokens `ts`, read where `level` is awaited, yield `t`.  A sum may be left with its last
product still to be completed. -/
def Level.Yields : Level → List Token → Term → Prop
  | .sum, ts, t => ∀ outer, ∃ sum last,
      (State.operand {} outer).run ts = some (.operator sum last outer) ∧ complete sum last = t
  | .product, ts, t => ∀ sum outer,
      (State.operand { sum := sum } outer).run ts = some (.operator sum t outer)
  | .factor, ts, t | .atom, ts, t => ∀ frame outer,
      (State.operand frame outer).run ts = some (State.afterOperand frame t outer)

/-- What is generated at a level yields its tree there. -/
lemma Derives.yields {level : Level} (h : Derives level ts t) : level.Yields ts t := by
  induction h with
  | ident symbol => exact fun _ _ => rfl
  | int value => exact fun _ _ => rfl
  | parentheses _ ih =>
    intro frame outer
    -- the closing parenthesis goes back to the frame that the sum inside is read on top of
    obtain ⟨sum, last, hrun, rfl⟩ := ih (frame :: outer)
    rw [State.run_cons]
    change (State.operand {} (frame :: outer)).run _ = _
    rw [State.run_append, hrun]
    rfl
  | atom _ ih => exact ih
  | neg _ ih =>
    intro frame outer
    rw [State.run_cons]
    refine (ih { frame with negations := frame.negations + 1 } outer).trans ?_
    simp only [State.afterOperand, Frame.absorb, negated_neg, negated_succ]
  | factor _ ih => exact fun sum outer => ih { sum := sum } outer
  | @productOp op ls rs l r hop _ _ ihl ihr =>
    intro sum outer
    rw [State.run_append, ihl sum outer, Option.bind_some, State.run_cons]
    have hstep : (State.operator sum l outer).step (.op op) =
        some (.operand { sum := sum, product := some (l, op) } outer) := by
      simp [State.step, State.afterOperator, hop]
    rw [hstep, Option.bind_some]
    exact ihr { sum := sum, product := some (l, op) } outer
  | product _ ih => exact fun outer => ⟨none, _, ih none outer, rfl⟩
  | @sumOp op ls rs l r hop _ _ ihl ihr =>
    intro outer
    obtain ⟨sum, last, hrun, rfl⟩ := ihl outer
    -- a sum operator completes what is pending, and the next product is read behind it
    refine ⟨some (complete sum last, op), r, ?_, rfl⟩
    rw [State.run_append, hrun, Option.bind_some, State.run_cons]
    have hstep : (State.operator sum last outer).step (.op op) =
        some (.operand { sum := some (complete sum last, op) } outer) := by
      simp [State.step, State.afterOperator, hop]
    rw [hstep, Option.bind_some]
    exact ihr (some (complete sum last, op)) outer

/-- The reader accepts what the grammar generates. -/
lemma Derives.ofTokens? (h : Derives .sum ts t) : ofTokens? ts = some t := by
  obtain ⟨sum, last, hrun, rfl⟩ := h.yields []
  change (State.start.run ts).bind State.finish = _
  rw [State.start, hrun]
  rfl

/-! ## What is accepted is generated -/

/-- The tokens of a pending operation: those of its left operand, generated at `level`, and its
operator. -/
inductive Pending.Reads (level : Level) (isSum : Bool) : Pending → List Token → Prop where
  | none : Reads level isSum none []
  | some {op : Op} {l : Term} {ts : List Token} : op.isSum = isSum → Derives level ts l →
    Reads level isSum (some (l, op)) (ts ++ [.op op])

/-- The tokens of a frame: those of its sum, its product and its minus signs. -/
def Frame.Reads (f : Frame) (ts : List Token) : Prop :=
  ∃ sums products, Pending.Reads .sum true f.sum sums ∧
    Pending.Reads .product false f.product products ∧
    ts = sums ++ (products ++ List.replicate f.negations (.op .sub))

/-- The tokens of the frames outside the parentheses that are open. -/
inductive OuterReads : List Frame → List Token → Prop where
  | nil : OuterReads [] []
  | cons {f : Frame} {outer : List Frame} {ts us : List Token} : f.Reads us →
    OuterReads outer ts → OuterReads (f :: outer) (ts ++ (us ++ [.opening]))

/-- The tokens that lead to a state. -/
inductive State.Reads : State → List Token → Prop where
  | operand {f : Frame} {outer : List Frame} {ts us : List Token} : OuterReads outer ts →
    f.Reads us → State.Reads (.operand f outer) (ts ++ us)
  | operator {sum : Pending} {t : Term} {outer : List Frame} {ts us vs : List Token} :
    OuterReads outer ts → Pending.Reads .sum true sum us → Derives .product vs t →
      State.Reads (.operator sum t outer) (ts ++ (us ++ vs))

/-- A pending sum is completed by a product to a sum. -/
lemma Pending.Reads.complete {sum : Pending} (h : Pending.Reads .sum true sum us)
    (ht : Derives .product ts t) : Derives .sum (us ++ ts) (complete sum t) := by
  cases h with
  | none => exact .product ht
  | some hop hl =>
    rw [List.append_assoc]
    exact .sumOp hop hl ht

/-- A frame makes a product of an atom. -/
lemma Frame.Reads.absorb {f : Frame} (h : f.Reads us) (ht : Derives .atom ts t) :
    ∃ sums products, Pending.Reads .sum true f.sum sums ∧
      Derives .product products (f.absorb t) ∧ us ++ ts = sums ++ products := by
  obtain ⟨sums, products, hsum, hproduct, rfl⟩ := h
  have hfactor : Derives .factor (List.replicate f.negations (.op .sub) ++ ts)
      (negated f.negations t) := by
    induction f.negations with
    | zero => exact .atom ht
    | succ n ih =>
      rw [List.replicate_succ, List.cons_append]
      exact .neg ih
  refine ⟨sums, products ++ (List.replicate f.negations (.op .sub) ++ ts), hsum, ?_, ?_⟩
  · unfold Frame.absorb
    generalize f.product = product at hproduct
    cases hproduct with
    | none => exact .factor hfactor
    | some hop hl =>
      rw [List.append_assoc]
      exact .productOp hop hl hfactor
  · simp only [List.append_assoc]

/-- The frame behind an opening parenthesis has read nothing. -/
lemma frame_reads_nil : Frame.Reads {} [] := ⟨[], [], .none, .none, rfl⟩

/-- Behind an atom, the state reads the tokens of the frame and of the atom. -/
lemma State.reads_afterOperand {f : Frame} {outer : List Frame} {vs : List Token}
    (houter : OuterReads outer vs) (h : f.Reads us) (ht : Derives .atom ts t) :
    (State.afterOperand f t outer).Reads (vs ++ (us ++ ts)) := by
  obtain ⟨sums, products, hsum, hproduct, heq⟩ := h.absorb ht
  rw [heq]
  exact .operator houter hsum hproduct

/-- A step reads one more token. -/
lemma State.Reads.step {s s' : State} {token : Token} (h : s.Reads ts)
    (hstep : s.step token = some s') : s'.Reads (ts ++ [token]) := by
  cases h with
  | @operand f outer ts us houter hframe =>
    rw [List.append_assoc]
    cases token with
    | ident symbol =>
      obtain rfl := Option.some.inj hstep
      exact reads_afterOperand houter hframe (.ident symbol)
    | int value =>
      obtain rfl := Option.some.inj hstep
      exact reads_afterOperand houter hframe (.int value)
    | op op =>
      cases op with
      | sub =>
        obtain rfl := Option.some.inj hstep
        -- one more minus sign at the end of the frame
        obtain ⟨sums, products, hsum, hproduct, rfl⟩ := hframe
        refine .operand houter ⟨sums, products, hsum, hproduct, ?_⟩
        simp only [List.append_assoc, List.replicate_succ']
      | _ => cases hstep
    | opening =>
      obtain rfl := Option.some.inj hstep
      have hopen : OuterReads (f :: outer) (ts ++ (us ++ [.opening])) := .cons hframe houter
      have hread := State.Reads.operand hopen frame_reads_nil
      rwa [List.append_nil] at hread
    | closing => cases hstep
  | @operator sum t outer ts us vs houter hsum ht =>
    cases token with
    | op op =>
      obtain rfl := Option.some.inj hstep
      unfold afterOperator
      split
      · rename_i hop
        have hpending : Pending.Reads .sum true (some (complete sum t, op))
            ((us ++ vs) ++ [.op op]) := .some hop (hsum.complete ht)
        rw [List.append_assoc]
        refine .operand houter ⟨_, [], hpending, .none, ?_⟩
        simp only [List.append_assoc, List.replicate_zero, List.append_nil]
      · rename_i hop
        have hpending : Pending.Reads .product false (some (t, op)) (vs ++ [.op op]) :=
          .some (Bool.eq_false_iff.2 hop) ht
        rw [List.append_assoc, List.append_assoc]
        refine .operand houter ⟨us, _, hsum, hpending, ?_⟩
        simp only [List.replicate_zero, List.append_nil]
    | closing =>
      cases houter with
      | nil => cases hstep
      | cons hframe houter =>
        obtain rfl := Option.some.inj hstep
        have hatom := Derives.parentheses (hsum.complete ht)
        have hread := reads_afterOperand houter hframe hatom
        simpa only [List.append_assoc, List.cons_append, List.nil_append] using hread
    | ident symbol => cases outer <;> cases hstep
    | int value => cases outer <;> cases hstep
    | opening => cases outer <;> cases hstep

/-- A run reads its tokens. -/
lemma State.Reads.run {s s' : State} (h : s.Reads ts) (hrun : s.run us = some s') :
    s'.Reads (ts ++ us) := by
  induction us generalizing s ts with
  | nil =>
    obtain rfl := Option.some.inj hrun
    rwa [List.append_nil]
  | cons u us ih =>
    rw [State.run_cons] at hrun
    obtain ⟨s₁, hstep, hrest⟩ := Option.bind_eq_some_iff.1 hrun
    rw [List.append_cons]
    exact ih (h.step hstep) hrest

/-- The reader accepts what the grammar generates, and nothing else. -/
theorem ofTokens?_eq_some_iff : ofTokens? ts = some t ↔ Derives .sum ts t := by
  refine ⟨fun h => ?_, Derives.ofTokens?⟩
  obtain ⟨s, hrun, hfinish⟩ := Option.bind_eq_some_iff.1 h
  have hstart : State.start.Reads [] := .operand .nil frame_reads_nil
  have hread := hstart.run hrun
  rw [List.nil_append] at hread
  cases hread with
  | operand => cases hfinish
  | operator houter hsum ht =>
    cases houter with
    | nil =>
      obtain rfl := Option.some.inj hfinish
      exact hsum.complete ht
    | cons => cases hfinish

/-! ## Texts -/

/-- Whether an operand has to come next. -/
def State.awaitsOperand : State → Bool
  | .operand _ _ => true
  | .operator _ _ _ => false

/-- An operand is read where one is awaited, and behind it none is. -/
lemma State.awaitsOperand_of_isOperand {s s' : State} {a : Token} (h : s.step a = some s')
    (ha : a.isOperand = true) : s.awaitsOperand = true ∧ s'.awaitsOperand = false := by
  cases a with
  | ident symbol | int value =>
    cases s with
    | operand f outer =>
      obtain rfl := Option.some.inj h
      exact ⟨rfl, rfl⟩
    | operator sum t outer => cases outer <;> cases h
  | _ => cases ha

/-- A division is read where no operand is awaited, and behind it one is. -/
lemma State.awaitsOperand_of_isDivision {s s' : State} {a : Token} (h : s.step a = some s')
    (ha : a.isDivision = true) : s.awaitsOperand = false ∧ s'.awaitsOperand = true := by
  cases a with
  | op op =>
    cases s with
    | operand f outer =>
      cases op with
      | floorDiv => cases h
      | trueDiv => cases h
      | _ => cases ha
    | operator sum t outer =>
      obtain rfl := Option.some.inj h
      unfold State.afterOperator
      split
      · exact ⟨rfl, rfl⟩
      · exact ⟨rfl, rfl⟩
  | _ => cases ha

/-- Tokens that the reader accepts one behind the other may touch. -/
lemma State.mayTouch_of_step {s s' s'' : State} {a b : Token} (h : s.step a = some s')
    (h' : s'.step b = some s'') : a.MayTouch b := by
  constructor
  · rintro ⟨ha, hb⟩
    have hnone := (awaitsOperand_of_isOperand h ha).2
    rw [(awaitsOperand_of_isOperand h' hb).1] at hnone
    cases hnone
  · rintro ⟨ha, hb⟩
    have hone := (awaitsOperand_of_isDivision h ha).2
    rw [(awaitsOperand_of_isDivision h' hb).1] at hone
    cases hone

/-- No two neighbours among the tokens of a run run together. -/
lemma State.isChain_of_run {s s' : State} (h : s.run ts = some s') :
    ts.IsChain Token.MayTouch := by
  induction ts generalizing s with
  | nil => exact .nil
  | cons a ts ih =>
    rw [State.run_cons] at h
    obtain ⟨s₁, hstep, hrest⟩ := Option.bind_eq_some_iff.1 h
    refine List.isChain_cons.2 ⟨fun b hb => ?_, ih hrest⟩
    obtain ⟨us, rfl⟩ := List.head?_eq_some_iff.1 hb
    rw [State.run_cons] at hrest
    obtain ⟨s₂, hstep', _⟩ := Option.bind_eq_some_iff.1 hrest
    exact mayTouch_of_step hstep hstep'

/-- A text is read as the tree of its derivation. -/
theorem read?_eq_some_iff {cs : List Char} : read? cs = some t ↔ Generates .sum cs t := by
  constructor
  · intro h
    obtain ⟨ts, htokens, hread⟩ := Option.bind_eq_some_iff.1 h
    exact ⟨ts, spelled_of_ofChars? htokens, ofTokens?_eq_some_iff.1 hread⟩
  · rintro ⟨ts, hspelled, hderives⟩
    obtain ⟨sum, last, hrun, _⟩ := hderives.yields []
    have htouch := State.isChain_of_run hrun
    exact Option.bind_eq_some_iff.2 ⟨ts, hspelled.ofChars? htouch, hderives.ofTokens?⟩

end ShapeAlgebra.Term
