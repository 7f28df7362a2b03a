import ShapeAlgebra.Proofs.Resolve.Align
import ShapeAlgebra.Proofs.Resolve.Expand
import ShapeAlgebra.Proofs.Resolve.Reduce
import ShapeAlgebra.Proofs.Resolve.View

/-!
# Where the resolvers trap

A resolver reads sizes at the positions that its lookups find, and divides sizes by sizes.  The
lookups find positions of the source, which the check of the source makes positions of the shape,
and an axis grows only from a positive size.  What is left is the remainder that a view takes of the
number of elements: it is guarded against the divisor zero, but not against the one quotient that is
no size.  `Overflows` says when a view comes to it, whatever the sizes of the shape are.
-/

namespace ShapeAlgebra.Resolve

variable {spec : String} {source target : Slots} {shape : List Size}

/-! ## Positions -/

/-- Whatever a lookup in `source` finds is a position of `source`. -/
structure LookupsWithin (source : Slots) : Prop where
  anonymousPosition? : ∀ ordinal position,
    Slots.anonymousPosition? source ordinal = some position → position < source.length
  positionOf? : ∀ e position, Slots.positionOf? source e = some position → position < source.length
  origin? : ∀ taken slot position,
    Resolve.origin? source taken slot = some position → position < source.length
  keeper? : ∀ next slot position,
    Resolve.keeper? source next slot = some position → position < source.length

/-- All positions that are looked up are inside of the source. -/
lemma lookupsWithin (source : Slots) : LookupsWithin source where
  anonymousPosition? _ _ h := Slots.lt_length_of_anonymousPosition? h
  positionOf? _ _ h := Slots.lt_length_of_positionOf? h
  origin? _ _ _ h := (comesFrom_of_origin? h).lt_length
  keeper? _ _ _ h := (comesFrom_of_keeper? h).2.lt_length

/-! ## The trap of a view -/

/-- Evaluation on a source is evaluation with its axes bound to the sizes of the shape. -/
lemma evalOn_eq_ok_iff {e : Expr} {n : Size} :
    evalOn spec source shape e = .ok n ↔ e.evalIn (binding source shape) = .ok n := by
  rw [evalOn, ofExcept_eq_ok_iff, mapError_eq_ok_iff]

/-- The size of an expression is the one that it stands for. -/
lemma exprSize_eq_ok_iff {e : Expr} {n : Size} :
    exprSize spec source shape e = .ok n ↔ StandsFor source shape e n := by
  unfold exprSize StandsFor
  cases Slots.positionOf? source e with
  | some position => exact Checked.elementAt_eq_ok_iff
  | none => exact evalOn_eq_ok_iff

/-- A slot of the target that has a size gets it. -/
lemma slotSize_of_hasSize {slot : Slot} {n : Size} (h : HasSize source shape slot n) :
    slotSize spec source target shape slot = .ok n := by
  cases slot with
  | anonymous ordinal =>
    obtain ⟨position, hposition, hn⟩ := hasSize_anonymous.1 h
    simp only [slotSize, hposition]
    exact Checked.elementAt_eq_ok_iff.2 hn
  | inferred =>
    obtain rfl := hasSize_inferred.1 h
    rfl
  | expr e =>
    obtain ⟨hstands, hnonneg⟩ := hasSize_expr.1 h
    refine bind_eq_ok_iff.2 ⟨n, exprSize_eq_ok_iff.2 hstands, ?_⟩
    rw [if_neg (Int64.not_lt.2 hnonneg)]

/-- The remainder of the least size by `-1` is where a view traps. -/
lemma Overflows.view_eq_trap (h : Overflows source target shape) :
    view spec source target shape = Checked.trap .overflow := by
  obtain ⟨sizes, hsizes, htotal, hknown⟩ := h.exists_sizes
  have hmapM : target.mapM (slotSize spec source target shape) = .ok sizes :=
    mapM_eq_ok_iff.2 (hsizes.imp fun _ _ hsize => slotSize_of_hasSize hsize)
  have hinferred : checkInferred spec target shape sizes = Checked.trap .overflow := by
    rw [checkInferred, h.one_inferred]
    rw [checkDivisor, countElements, countElements, htotal, hknown]
    rfl
  rw [view, checkSource_of_describes h.describes, hmapM]
  change (checkInferred spec target shape sizes >>= fun _ => .ok sizes) = _
  rw [hinferred]
  rfl

/-- A view answers but for the one remainder. -/
lemma answers_view_iff :
    (view spec source target shape).Answers ↔ ¬Overflows source target shape := by
  constructor
  · intro hanswers htrap
    rw [htrap.view_eq_trap] at hanswers
    exact not_answers_trap _ hanswers
  · exact fun hnot => meets_view_overflows.answers hnot

/-! ## All resolvers -/

/-- Every resolver ends with a value or a refusal, on any slots and any shape, but for a view that
comes to the remainder of the least size by `-1`, which a shape without negative sizes never does.
The positions that are looked up are positions of the source, and the floor division of an
expression, taken in steps of the machine, comes to no trap either. -/
theorem resolvers_answer (spec : String) (source target : Slots) (expansions : List (Expr × Expr))
    (shape : List Size) :
    (permute spec source target).Answers ∧
      (reducedAxes spec source target).Answers ∧
      (expand spec source expansions shape).Answers ∧
      (expandPositional spec source target shape).Answers ∧
      (align spec source target shape).Answers ∧
      ((view spec source target shape).Answers ↔ ¬Overflows source target shape) ∧
      (Overflows source target shape →
        view spec source target shape = Checked.trap .overflow) ∧
      ((∀ n ∈ shape, 0 ≤ n) → (view spec source target shape).Answers) ∧
      LookupsWithin source ∧
      ∀ a b : Size, (Size.floorDivByQuotient a b : Checked ShapeError (Option Size)) =
        .ok (Size.floorDiv? a b) := by
  refine ⟨meets_permute_comesFrom.answers not_false, meets_reducedAxes.answers not_false,
    meets_expand.answers not_false, meets_expandPositional.answers not_false,
    meets_align.answers not_false, answers_view_iff, Overflows.view_eq_trap, ?_,
    lookupsWithin source, Size.floorDivByQuotient_eq⟩
  intro hshape
  exact answers_view_iff.2 fun htrap => htrap.not_nonneg hshape

/-- A view of the shape `-1,2^62,2` that keeps the first axis and infers the rest traps. -/
theorem resolvers_answer_least_size :
    view "_,_,_ -> _,-1" [.anonymous 0, .anonymous 1, .anonymous 2] [.anonymous 0, .inferred]
      [-1, 4611686018427387904, 2] = Checked.trap .overflow := by
  have hoverflows : Overflows [.anonymous 0, .anonymous 1, .anonymous 2]
      [.anonymous 0, .inferred] [-1, 4611686018427387904, 2] := by
    refine ⟨⟨rfl, by decide⟩, rfl, [-1, -1], ?_, by decide, by decide⟩
    exact .cons ⟨0, rfl, rfl⟩ (.cons rfl .nil)
  obtain ⟨-, -, -, -, -, -, htrap, -⟩ := resolvers_answer "_,_,_ -> _,-1"
    [.anonymous 0, .anonymous 1, .anonymous 2] [.anonymous 0, .inferred] []
    [-1, 4611686018427387904, 2]
  exact htrap hoverflows

end ShapeAlgebra.Resolve
