import ShapeAlgebra.Proofs.Arith.Reading

/-!
# Printing slot arithmetic

A term is printed without blanks, and with parentheses only around an operand that binds more weakly
than the place it stands in asks for.  The text is generated by the grammar, with the term itself as
the tree of the derivation, so reading it gives the term back.  All that is asked of the term is
that its parts can be written at all: that its symbols are identifiers, and its numbers have no
sign.
-/

namespace ShapeAlgebra.Term

open Text

/-! ## The printer -/

/-- The strength with which the terms of a level hold together. -/
def Level.strength : Level → Nat
  | .sum => 0
  | .product => 1
  | .factor => 2
  | .atom => 3

/-- The level of an operator and of its left operand. -/
def Op.level (op : Op) : Level := if op.isSum then .sum else .product

/-- The level of the right operand of an operator. -/
def Op.rightLevel (op : Op) : Level := if op.isSum then .product else .factor

/-- The text of a term of level `own` where `asked` is awaited: in parentheses if it is too weak. -/
def enclosed (asked own : Level) (text : String) : String :=
  if own.strength < asked.strength then "(" ++ text ++ ")" else text

/-- The text of a term where `asked` is awaited. -/
def textAt (asked : Level) : Term → String
  | .ident symbol => symbol
  | .int value => value.text
  | .neg operand => enclosed asked .factor ("-" ++ operand.textAt .factor)
  | .binary op l r =>
    enclosed asked op.level (l.textAt op.level ++ op.sign ++ r.textAt op.rightLevel)

/-- The text of a term. -/
def text (t : Term) : String := t.textAt .sum

/-- The symbols of a term are identifiers, and its numbers have no sign. -/
def WellFormed : Term → Prop
  | .ident symbol => Identifier symbol.toList
  | .int value => 0 ≤ value.toInt
  | .neg operand => operand.WellFormed
  | .binary _ l r => l.WellFormed ∧ r.WellFormed

/-! ## What is read can be written -/

variable {ts : List Token} {cs : List Char} {t : Term}

/-- The tokens of a text can be written. -/
lemma Spelled.exists_spells (h : Spelled ts cs) : ∀ token ∈ ts, ∃ word, token.Spells word := by
  induction h with
  | nil => exact fun _ hmem => absurd hmem List.not_mem_nil
  | cons _ hword _ ih => exact List.forall_mem_cons.2 ⟨⟨_, hword⟩, ih⟩

/-- A term made of tokens that can be written is well formed. -/
lemma Derives.wellFormed {level : Level} (h : Derives level ts t)
    (hts : ∀ token ∈ ts, ∃ word, token.Spells word) : t.WellFormed := by
  induction h with
  | ident symbol =>
    obtain ⟨word, hword⟩ := hts _ List.mem_cons_self
    cases hword with
    | ident hident => exact hident
  | int value =>
    obtain ⟨word, hword⟩ := hts _ List.mem_cons_self
    cases hword with
    | int hnumeral => exact hnumeral.nonneg
  | parentheses _ ih =>
    exact ih fun token hmem => hts token (List.mem_cons_of_mem _ (List.mem_append_left _ hmem))
  | neg _ ih => exact ih fun token hmem => hts token (List.mem_cons_of_mem _ hmem)
  | atom _ ih | factor _ ih | product _ ih => exact ih hts
  | productOp _ _ _ ihl ihr | sumOp _ _ _ ihl ihr =>
    refine ⟨ihl fun token hmem => hts token (List.mem_append_left _ hmem), ihr fun token hmem => ?_⟩
    exact hts token (List.mem_append_right _ (List.mem_cons_of_mem _ hmem))

/-- A term that has been read is well formed. -/
lemma wellFormed_of_read? (h : read? cs = some t) : t.WellFormed := by
  obtain ⟨ts, hspelled, hderives⟩ := read?_eq_some_iff.1 h
  exact hderives.wellFormed hspelled.exists_spells

/-! ## What is printed can be read -/

/-- What is generated at a level is generated wherever no stronger level is awaited. -/
lemma Derives.weaken {own asked : Level} (h : Derives own ts t)
    (hle : asked.strength ≤ own.strength) : Derives asked ts t := by
  cases own with
  | sum =>
    cases asked with
    | sum => exact h
    | _ => exact absurd hle (by decide)
  | product =>
    cases asked with
    | sum => exact .product h
    | product => exact h
    | _ => exact absurd hle (by decide)
  | factor =>
    cases asked with
    | sum => exact .product (.factor h)
    | product => exact .factor h
    | factor => exact h
    | atom => exact absurd hle (by decide)
  | atom =>
    cases asked with
    | sum => exact .product (.factor (.atom h))
    | product => exact .factor (.atom h)
    | factor => exact .atom h
    | atom => exact h

/-- A text in parentheses, if it needs them, is generated where it stands. -/
lemma Generates.enclosed {own asked : Level} {text : String} (h : Generates own text.toList t) :
    Generates asked (enclosed asked own text).toList t := by
  obtain ⟨ts, hspelled, hderives⟩ := h
  unfold Term.enclosed
  split
  · have hatom := Derives.parentheses (hderives.weaken (Nat.zero_le _ : Level.sum.strength ≤ _))
    refine ⟨_, ?_, hatom.weaken (by cases asked <;> decide)⟩
    rw [String.toList_append, String.toList_append, List.append_assoc]
    exact Token.Spells.opening.spelled.append (hspelled.append Token.Spells.closing.spelled)
  · rename_i hlt
    exact ⟨ts, hspelled, hderives.weaken (Nat.not_lt.1 hlt)⟩

/-- An operator joins its operands to a term of its level. -/
lemma Derives.binary {op : Op} {ls rs : List Token} {l r : Term} (hl : Derives op.level ls l)
    (hr : Derives op.rightLevel rs r) :
    Derives op.level (ls ++ .op op :: rs) (.binary op l r) := by
  unfold Op.level at hl ⊢
  unfold Op.rightLevel at hr
  split at hl
  · rename_i hop
    rw [if_pos hop] at hr ⊢
    exact .sumOp hop hl hr
  · rename_i hop
    rw [if_neg hop] at hr ⊢
    exact .productOp (Bool.eq_false_iff.2 hop) hl hr

/-- The text of a well-formed term is generated where it stands. -/
lemma generates_textAt (h : t.WellFormed) (asked : Level) :
    Generates asked (t.textAt asked).toList t := by
  induction t generalizing asked with
  | ident symbol =>
    exact ⟨_, (Token.Spells.ident h).spelled,
      (Derives.ident symbol).weaken (by cases asked <;> decide)⟩
  | int value =>
    exact ⟨_, (Token.Spells.int (numeral_text h)).spelled,
      (Derives.int value).weaken (by cases asked <;> decide)⟩
  | neg operand ih =>
    obtain ⟨ts, hspelled, hderives⟩ := ih h .factor
    refine Generates.enclosed ⟨.op .sub :: ts, ?_, .neg hderives⟩
    rw [String.toList_append]
    exact (Token.Spells.op .sub).spelled.append hspelled
  | binary op l r ihl ihr =>
    obtain ⟨ls, hls, hl⟩ := ihl h.1 op.level
    obtain ⟨rs, hrs, hr⟩ := ihr h.2 op.rightLevel
    refine Generates.enclosed ⟨ls ++ .op op :: rs, ?_, Derives.binary hl hr⟩
    rw [String.toList_append, String.toList_append, List.append_assoc]
    exact hls.append ((Token.Spells.op op).spelled.append hrs)

/-- A text is read as a term exactly if the grammar generates it with that tree, and the text of a
well-formed term is read as the term. -/
theorem read?_follows_grammar (cs : List Char) (t : Term) :
    (read? cs = some t ↔ Generates .sum cs t) ∧ (t.WellFormed → read? t.text.toList = some t) := by
  refine ⟨read?_eq_some_iff, fun h => ?_⟩
  exact read?_eq_some_iff.2 (generates_textAt h .sum)

/-- A difference in a difference, a negation in front of it and a product behind a division need
parentheses, and a sign behind a minus does not. -/
theorem read?_follows_grammar_nested :
    let t : Term := .binary .floorDiv
      (.neg (.binary .sub (.ident "a") (.binary .sub (.ident "b_2") (.neg (.int 7)))))
      (.binary .mul (.ident "c") (.int 0))
    t.WellFormed ∧ t.text = "-(a-(b_2--7))//(c*0)" ∧ read? t.text.toList = some t := by
  intro t
  have ht : t.WellFormed := by
    simp only [t, WellFormed, ← isIdentifier_iff]
    decide
  exact ⟨ht, by decide, (read?_follows_grammar [] t).2 ht⟩

end ShapeAlgebra.Term
