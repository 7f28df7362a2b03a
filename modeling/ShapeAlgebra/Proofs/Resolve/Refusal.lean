import ShapeAlgebra.Proofs.Size
import ShapeAlgebra.Resolve.Align
import ShapeAlgebra.Resolve.Expand
import ShapeAlgebra.Resolve.Permute
import ShapeAlgebra.Resolve.View

/-!
# What the resolvers refuse

Some errors are about what was written: a text that cannot be read, a symbol that is not declared,
tags that do not go with a chain.  Behind the readers nothing of the kind should be left to find,
and there is one such thing only: views, expansions and alignments refuse a source that leaves an
axis to be inferred.  Every other refusal of a resolver is about sizes and about the pairing of
slots.  The contracts here do not care for traps.
-/

namespace ShapeAlgebra

/-- Whether errors of a kind are about what was written, whatever the sizes. -/
def ShapeError.Kind.isTextual : ShapeError.Kind → Bool
  | .unreadable | .notDeclared | .chain => true
  | _ => false

/-- An evaluation fails for a missing size or for an operand. -/
lemma Expr.meets_evalIn (b : Binding) (e : Expr) :
    Meets (e.evalIn b) (fun _ => True) fun err => err.kind.isTextual = false := by
  induction e with
  | lit n => exact trivial
  | var d =>
    rw [evalIn_var]
    unfold sizeOfDim
    split
    · exact trivial
    · rfl
  | binary op l r ihl ihr =>
    rw [evalIn_binary]
    refine ihl.bind fun m _ => ihr.bind fun n _ => ?_
    unfold combine
    split
    · rfl
    · split
      · exact trivial
      · rfl

namespace Resolve

variable {spec : String} {source target : Slots} {shape : List Size} {wrong : Prop}

/-- A refusal about what was written only for an axis of the source that is left to be inferred,
and only if `wrong` allows for it. -/
abbrev TextualOnlyIf (wrong : Prop) : Fault ShapeError → Prop :=
  Fault.Within (fun e => e.kind.isTextual = true →
    e.cause = .unreadable .inferredSource ∧ wrong) True

/-- A refusal of another kind is always allowed. -/
lemma textualOnlyIf_of_isTextual {e : ShapeError} (h : e.kind.isTextual = false) :
    TextualOnlyIf wrong (.refusal e) := by
  intro htextual
  rw [h] at htextual
  cases htextual

/-! ## Parts of a resolution -/

/-- What is wrong with a source is a matter of its text only if one of its slots is to be inferred.
-/
lemma refusals_checkSource :
    Meets (Checked.ofExcept (checkSource spec source shape)) (fun _ => True)
      (TextualOnlyIf (∃ slot ∈ source, slot.isInferred = true)) := by
  refine Meets.ofExcept ?_
  unfold checkSource
  split
  · exact textualOnlyIf_of_isTextual rfl
  · split
    · rename_i hinferred
      rw [List.any_eq_true] at hinferred
      exact fun _ => ⟨rfl, hinferred⟩
    · exact trivial

/-- An evaluation is not refused for what was written. -/
lemma refusals_evalOn {e : Expr} :
    Meets (evalOn spec source shape e) (fun _ => True) (TextualOnlyIf wrong) := by
  refine Meets.ofExcept (Meets.mapError ?_)
  exact (e.meets_evalIn _).imp (fun _ h => h) fun _ h => textualOnlyIf_of_isTextual h

/-- Reading an element is not refused at all. -/
lemma refusals_elementAt {α : Type} {xs : List α} {index : Nat} :
    Meets (Checked.elementAt xs index : Checked ShapeError α) (fun _ => True)
      (TextualOnlyIf wrong) := by
  unfold Checked.elementAt
  cases xs[index]? <;> exact trivial

/-- Counting elements is not refused for what was written. -/
lemma refusals_countElements {sizes : List Size} :
    Meets (Checked.ofExcept (countElements spec sizes)) (fun _ => True) (TextualOnlyIf wrong) := by
  refine Meets.ofExcept ?_
  unfold countElements
  cases Size.product? sizes with
  | some n => exact trivial
  | none => exact textualOnlyIf_of_isTextual rfl

/-! ## Views -/

/-- The size of an expression is not refused for what was written. -/
lemma refusals_exprSize {e : Expr} :
    Meets (exprSize spec source shape e) (fun _ => True) (TextualOnlyIf wrong) := by
  unfold exprSize
  split
  · exact refusals_elementAt
  · exact refusals_evalOn

/-- The size of a slot is not refused for what was written. -/
lemma refusals_slotSize (slot : Slot) :
    Meets (slotSize spec source target shape slot) (fun _ => True) (TextualOnlyIf wrong) := by
  cases slot with
  | anonymous ordinal =>
    simp only [slotSize]
    split
    · exact refusals_elementAt
    · exact textualOnlyIf_of_isTextual rfl
  | inferred => exact trivial
  | expr e =>
    refine refusals_exprSize.bind fun n _ => ?_
    split
    · exact textualOnlyIf_of_isTextual rfl
    · exact trivial

/-- What is to be inferred is not refused for what was written. -/
lemma refusals_checkInferred {sizes : List Size} :
    Meets (checkInferred spec target shape sizes) (fun _ => True) (TextualOnlyIf wrong) := by
  unfold checkInferred
  split
  · exact trivial
  · refine refusals_countElements.bind fun total _ => ?_
    refine refusals_countElements.bind fun known _ => ?_
    split
    · exact textualOnlyIf_of_isTextual rfl
    · refine (Size.meets_remainder fun _ => trivial).bind fun rest _ => ?_
      split
      · exact trivial
      · exact textualOnlyIf_of_isTextual rfl
  · exact textualOnlyIf_of_isTextual rfl

/-- What a view refuses. -/
theorem refusals_view :
    Meets (view spec source target shape) (fun _ => True)
      (TextualOnlyIf (∃ slot ∈ source, slot.isInferred = true)) := by
  refine refusals_checkSource.bind fun _ _ => ?_
  refine (Meets.mapM fun slot _ => refusals_slotSize slot).bind fun sizes _ => ?_
  exact refusals_checkInferred.bind fun _ _ => trivial

/-! ## Expansions -/

/-- A factor is not refused for what was written. -/
lemma refusals_growth {slot : String} {before after : Size} :
    Meets (growth spec slot before after) (fun _ => True) (TextualOnlyIf wrong) := by
  unfold growth
  split
  · exact textualOnlyIf_of_isTextual rfl
  · refine (Size.meets_remainder fun _ => trivial).bind fun rest _ => ?_
    split
    · exact (Size.meets_quotient fun _ => trivial).imp (fun _ _ => trivial) fun _ h => h
    · exact textualOnlyIf_of_isTextual rfl

/-- The factor of an axis is not refused for what was written. -/
lemma refusals_slotGrowth {before after : Slot} {n : Option Size} :
    Meets (slotGrowth spec source shape before after n) (fun _ => True) (TextualOnlyIf wrong) := by
  cases after with
  | anonymous _ => exact trivial
  | inferred => exact trivial
  | expr e =>
    simp only [slotGrowth]
    split
    · exact trivial
    · refine refusals_evalOn.bind fun size _ => ?_
      cases n with
      | some n => exact refusals_growth
      | none => exact trivial

/-- The factors of all axes are not refused for what was written. -/
lemma refusals_slotGrowths {befores afters : Slots} {sizes : List Size} :
    Meets (slotGrowths spec source shape befores afters sizes) (fun _ => True)
      (TextualOnlyIf wrong) := by
  induction befores generalizing afters sizes with
  | nil => exact trivial
  | cons before befores ih =>
    cases afters with
    | nil => exact trivial
    | cons after afters => exact refusals_slotGrowth.bind fun factor _ => ih.bind fun _ _ => trivial

/-- What an expansion position by position refuses. -/
theorem refusals_expandPositional :
    Meets (expandPositional spec source target shape) (fun _ => True)
      (TextualOnlyIf (∃ slot ∈ source, slot.isInferred = true)) := by
  refine refusals_checkSource.bind fun _ _ => ?_
  split
  · exact textualOnlyIf_of_isTextual rfl
  · exact refusals_slotGrowths

/-! ## Alignments -/

/-- Placing axes is not refused for what was written. -/
lemma refusals_placeAxes :
    Meets (placeAxes source shape target) (fun _ => True) (TextualOnlyIf wrong) := by
  induction target generalizing source shape with
  | nil => exact trivial
  | cons slot target ih =>
    cases source with
    | nil => exact ih.bind fun _ _ => trivial
    | cons axis axes =>
      simp only [placeAxes]
      split
      · cases shape with
        | nil => exact trivial
        | cons n shape => exact ih.bind fun _ _ => trivial
      · exact ih.bind fun _ _ => trivial

/-- What an alignment refuses. -/
theorem refusals_align :
    Meets (align spec source target shape) (fun _ => True)
      (TextualOnlyIf (∃ slot ∈ source, slot.isInferred = true)) := by
  refine refusals_checkSource.bind fun _ _ => ?_
  refine refusals_placeAxes.bind fun placed _ => ?_
  obtain ⟨sizes, left⟩ := placed
  cases left with
  | nil => exact trivial
  | cons missing _ => exact textualOnlyIf_of_isTextual rfl

/-! ## Permutations -/

/-- The search for origins is not refused for what was written. -/
lemma refusals_origins {taken : List Nat} :
    Meets (origins spec source taken target) (fun _ => True) fun e => e.kind.isTextual = false := by
  induction target generalizing taken with
  | nil => exact trivial
  | cons slot target ih =>
    simp only [origins]
    split
    · exact ih.bind fun _ _ => trivial
    · rfl

/-- What a permutation refuses. -/
theorem refusals_permute :
    Meets (permute spec source target) (fun _ => True) (TextualOnlyIf wrong) := by
  unfold permute
  split
  · exact textualOnlyIf_of_isTextual rfl
  · split
    · exact textualOnlyIf_of_isTextual rfl
    · refine Meets.ofExcept (refusals_origins.imp (fun _ h => h) fun e h => ?_)
      exact textualOnlyIf_of_isTextual h

end Resolve

end ShapeAlgebra
