import ShapeAlgebra.Proofs.Resolve.Permute
import ShapeAlgebra.Resolve.Reduce

/-!
# The contract of a reduction

Every slot of the target keeps a position of the source that holds a slot pairing with it, and the
positions that are kept ascend.  The induction is on the target with the next position as a
parameter: no slot keeps a position before it.  A reduction never traps.
-/

namespace ShapeAlgebra.Resolve

variable {spec : String} {source target : Slots} {trapped : Prop}

/-- The first position from `next` on is not before it, and holds a slot that pairs up. -/
lemma getElem?_of_firstFrom? {next position : Nat} {slot : Slot}
    (h : firstFrom? source next slot = some position) :
    next ≤ position ∧ ∃ s, source[position]? = some s ∧ s.pairs slot = true := by
  unfold firstFrom? at h
  obtain ⟨⟨s, i⟩, hfind, rfl⟩ := Option.map_eq_some_iff.1 h
  have hpairs := List.find?_some hfind
  obtain ⟨j, hj⟩ := List.mem_iff_getElem?.1 (List.mem_of_find?_eq_some hfind)
  rw [List.getElem?_drop, List.getElem?_zipIdx, Option.map_eq_some_iff] at hj
  obtain ⟨s', hs', heq⟩ := hj
  obtain ⟨rfl, rfl⟩ := Prod.mk.inj heq
  exact ⟨by omega, s', by simpa using hs', hpairs⟩

/-- A slot keeps a position that is not before `next`, and that it comes from. -/
lemma comesFrom_of_keeper? {next position : Nat} {slot : Slot}
    (h : keeper? source next slot = some position) :
    next ≤ position ∧ ComesFrom source slot position := by
  cases slot with
  | anonymous ordinal =>
    obtain ⟨hposition, hle⟩ := Option.filter_eq_some_iff.1 h
    exact ⟨of_decide_eq_true hle, hposition⟩
  | expr e => exact getElem?_of_firstFrom? h
  | inferred => exact getElem?_of_firstFrom? h

/-- The positions `kept` ascend from `next` on, and the slots of `target` come from them. -/
structure Keeps (source : Slots) (next : Nat) (target : Slots) (kept : List Nat) : Prop where
  comesFrom : List.Forall₂ (ComesFrom source) target kept
  ascending : kept.Pairwise (· < ·)
  le_of_mem : ∀ position ∈ kept, next ≤ position

/-- The positions that are kept are inside of the source. -/
lemma Keeps.lt_length {next : Nat} {kept : List Nat} (h : Keeps source next target kept) :
    ∀ position ∈ kept, position < source.length := by
  intro position hposition
  obtain ⟨slot, _, hcomes⟩ := exists_of_mem_right h.comesFrom hposition
  exact hcomes.lt_length

/-- One more slot in front is kept in front of the others. -/
lemma Keeps.cons {next position : Nat} {slot : Slot} {kept : List Nat}
    (hposition : keeper? source next slot = some position)
    (h : Keeps source (position + 1) target kept) :
    Keeps source next (slot :: target) (position :: kept) := by
  obtain ⟨hle, hcomes⟩ := comesFrom_of_keeper? hposition
  refine ⟨.cons hcomes h.comesFrom, List.pairwise_cons.2 ⟨h.le_of_mem, h.ascending⟩, ?_⟩
  intro p hp
  rcases List.mem_cons.1 hp with rfl | hp
  · exact hle
  · exact hle.trans (Nat.le_of_succ_le (h.le_of_mem p hp))

/-- The search for the axes to keep finds such, or refuses for the spec. -/
lemma meets_keptAxes {next : Nat} :
    Meets (keptAxes spec source next target) (Keeps source next target)
      fun e => e.spec = spec := by
  induction target generalizing next with
  | nil => exact ⟨.nil, .nil, fun _ hmem => absurd hmem List.not_mem_nil⟩
  | cons slot target ih =>
    simp only [keptAxes]
    split
    · rename_i position hposition
      exact ih.bind fun kept hkept => hkept.cons hposition
    · rfl

/-- What a reduction is made of: the axes of the source that the target does not keep. -/
theorem meets_reducedAxes :
    Meets (reducedAxes spec source target)
      (fun axes => ∃ kept, Keeps source 0 target kept ∧
        axes = (List.range source.length).filter fun i => !kept.contains i)
      (ReportedFor spec False) := by
  refine (Meets.ofExcept meets_keptAxes).bind fun kept hkept => ?_
  exact ⟨kept, hkept, rfl⟩

end ShapeAlgebra.Resolve
