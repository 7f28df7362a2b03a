import ShapeAlgebra.Proofs.Expr.Stripped
import ShapeAlgebra.Slot.Basic

/-!
# Slots without declared sizes

Slots whose expressions are stripped show the same text and pair up in the same way, so every
lookup among them answers with the same position.
-/

namespace ShapeAlgebra

namespace Slot

/-- The slot with its expression, if it is one, stripped. -/
def stripped : Slot → Slot
  | .expr e => .expr e.stripped
  | .anonymous ordinal => .anonymous ordinal
  | .inferred => .inferred

@[simp]
lemma stripped_expr (e : Expr) : (Slot.expr e).stripped = .expr e.stripped := rfl

@[simp]
lemma stripped_anonymous (ordinal : Nat) :
    (Slot.anonymous ordinal).stripped = .anonymous ordinal := rfl

@[simp]
lemma stripped_inferred : Slot.inferred.stripped = .inferred := rfl

@[simp]
lemma isAnonymous_stripped (s : Slot) : s.stripped.isAnonymous = s.isAnonymous := by
  cases s <;> rfl

@[simp]
lemma isInferred_stripped (s : Slot) : s.stripped.isInferred = s.isInferred := by
  cases s <;> rfl

@[simp]
lemma text_stripped (s : Slot) : s.stripped.text = s.text := by
  cases s <;> simp [text]

@[simp]
lemma expr?_stripped (s : Slot) : s.stripped.expr? = s.expr?.map Expr.stripped := by
  cases s <;> rfl

@[simp]
lemma pairs_stripped (s t : Slot) : s.stripped.pairs t.stripped = s.pairs t := by
  cases s <;> cases t <;> simp [pairs]

end Slot

namespace Slots

/-- The slots with all their expressions stripped. -/
def stripped (slots : Slots) : Slots := slots.map Slot.stripped

@[simp]
lemma stripped_nil : Slots.stripped [] = [] := rfl

@[simp]
lemma stripped_cons (slot : Slot) (slots : Slots) :
    Slots.stripped (slot :: slots) = slot.stripped :: slots.stripped := rfl

@[simp]
lemma length_stripped (slots : Slots) : slots.stripped.length = slots.length :=
  List.length_map Slot.stripped

@[simp]
lemma text_stripped (slots : Slots) : slots.stripped.text = slots.text := by
  simp [text, stripped, Function.comp_def]

@[simp]
lemma anonymousCount_stripped (slots : Slots) :
    slots.stripped.anonymousCount = slots.anonymousCount := by
  simp [anonymousCount, stripped, List.countP_map, Function.comp_def]

@[simp]
lemma anonymousPositions_stripped (slots : Slots) :
    slots.stripped.anonymousPositions = slots.anonymousPositions := by
  simp [anonymousPositions, stripped, List.zipIdx_map, List.filter_map, Function.comp_def]

@[simp]
lemma anonymousPosition?_stripped (slots : Slots) (ordinal : Nat) :
    slots.stripped.anonymousPosition? ordinal = slots.anonymousPosition? ordinal := by
  simp [anonymousPosition?]

@[simp]
lemma positionOf?_stripped (slots : Slots) (e : Expr) :
    slots.stripped.positionOf? e.stripped = slots.positionOf? e := by
  simp [positionOf?, stripped, List.findIdx?_map, Option.any_map, Function.comp_def]

@[simp]
lemma any_isInferred_stripped (slots : Slots) :
    slots.stripped.any Slot.isInferred = slots.any Slot.isInferred := by
  simp [stripped, Function.comp_def]

@[simp]
lemma any_pairs_stripped (slots : Slots) (slot : Slot) :
    slots.stripped.any (·.pairs slot.stripped) = slots.any (·.pairs slot) := by
  simp [stripped, Function.comp_def]

end Slots

end ShapeAlgebra
