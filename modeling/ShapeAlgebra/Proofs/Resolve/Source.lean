import ShapeAlgebra.Proofs.Size
import ShapeAlgebra.Proofs.Slot.Position
import ShapeAlgebra.Resolve.Source

/-!
# Contracts of the checks on a source

What the resolvers may rely on behind their first checks.  All refusals are reported for the spec
that is resolved.  The last section says what a source binds: a dimension has the size of the axis
that it is looked up at.
-/

namespace ShapeAlgebra.Resolve

variable {spec : String} {source : Slots} {shape : List Size} {trapped : Prop}

/-- A refusal that is reported for `spec`, or a trap if `trapped` allows for one. -/
abbrev ReportedFor (spec : String) (trapped : Prop) : Fault ShapeError → Prop :=
  Fault.Within (fun e => e.spec = spec) trapped

/-- A source that passes has one slot for each axis, and none of them is to be inferred. -/
structure Describes (source : Slots) (shape : List Size) : Prop where
  length_eq : source.length = shape.length
  not_isInferred : ∀ slot ∈ source, slot.isInferred = false

/-- A source that passes the check describes the shape. -/
lemma meets_checkSource :
    Meets (Checked.ofExcept (checkSource spec source shape)) (fun _ => Describes source shape)
      (ReportedFor spec trapped) := by
  refine Meets.ofExcept ?_
  unfold checkSource
  split
  · rfl
  · rename_i hlen
    split
    · rfl
    · rename_i hinf
      refine ⟨not_not.1 hlen, fun slot hslot => ?_⟩
      rw [Bool.not_eq_true, List.any_eq_false] at hinf
      exact Bool.not_eq_true _ ▸ hinf slot hslot

/-- There is one slot for each axis behind a check that has been passed. -/
lemma describes_of_checkSource (h : checkSource spec source shape = .ok ()) :
    Describes source shape := by
  have hmeets : Meets (Checked.ofExcept (checkSource spec source shape))
      (fun _ => Describes source shape) (ReportedFor spec False) := meets_checkSource
  exact hmeets.post_of_eq_ok (congrArg Checked.ofExcept h)

/-- A source that describes the shape passes the check. -/
lemma checkSource_of_describes (h : Describes source shape) :
    checkSource spec source shape = .ok () := by
  have hnone : ¬source.any Slot.isInferred = true := by
    rw [Bool.not_eq_true, List.any_eq_false]
    intro slot hslot
    rw [h.not_isInferred slot hslot]
    exact Bool.false_ne_true
  rw [checkSource, if_neg (not_not.2 h.length_eq), if_neg hnone]

/-- What is done behind the check may rely on the source, so that two ways to go on need to agree on
sources that pass only. -/
lemma checkSource_bind_congr {α : Type} {f g : Unit → Checked ShapeError α}
    (h : Describes source shape → f () = g ()) :
    (Checked.ofExcept (checkSource spec source shape) >>= f) =
      Checked.ofExcept (checkSource spec source shape) >>= g := by
  cases hcheck : checkSource spec source shape with
  | error e => rfl
  | ok _ => exact h (describes_of_checkSource hcheck)

/-- A count of elements that is not refused is the product. -/
lemma meets_countElements {sizes : List Size} :
    Meets (Checked.ofExcept (countElements spec sizes))
      (fun n => Size.product? sizes = some n) (ReportedFor spec trapped) := by
  refine Meets.ofExcept ?_
  unfold countElements
  cases h : Size.product? sizes with
  | some n => rfl
  | none => rfl

/-- The value of an expression on a source, if it has one, is its value under the binding of the
source. -/
lemma meets_evalOn {e : Expr} :
    Meets (evalOn spec source shape e) (fun n => e.evalIn (binding source shape) = .ok n)
      (ReportedFor spec trapped) := by
  refine Meets.ofExcept (Meets.mapError ?_)
  exact (meets_self _).imp (fun n h => h) fun e _ => rfl

/-! ## Bindings -/

/-- The first slot binds the dimension that it pairs up with. -/
lemma lookup_boundSizes_cons (slot : Slot) (n : Size) (d : Dim) :
    (boundSizes (slot :: source) (n :: shape)).lookup d.symbol =
      if slot.pairs (.expr (.var d)) then some n
      else (boundSizes source shape).lookup d.symbol := by
  cases slot with
  | expr e =>
    cases e with
    | var d' =>
      change List.lookup d.symbol ((d'.symbol, n) :: boundSizes source shape) = _
      rw [List.lookup_cons, Bool.beq_comm]
      change _ = if (d'.symbol == d.symbol) = true then _ else _
      cases d'.symbol == d.symbol <;> rfl
    | lit _ => rfl
    | binary _ _ _ => rfl
  | anonymous _ => rfl
  | inferred => rfl

/-- A dimension is bound to the size of the axis that it is looked up at. -/
lemma binding_eq_bind_positionOf? (source : Slots) (shape : List Size) (d : Dim) :
    binding source shape d = (source.positionOf? (.var d)).bind (shape[·]?) := by
  unfold binding
  rw [Slots.positionOf?_eq_findIdx?]
  induction source generalizing shape with
  | nil => rfl
  | cons slot source ih =>
    cases shape with
    | nil => simp [boundSizes]
    | cons n shape =>
      rw [lookup_boundSizes_cons, ih, List.findIdx?_cons]
      split
      · rfl
      · rw [Option.bind_map]
        rfl

end ShapeAlgebra.Resolve
