import Mathlib.Data.List.Forall2
import Mathlib.Data.List.Nodup
import Mathlib.Data.List.Perm.Subperm
import ShapeAlgebra.Proofs.Outcome
import ShapeAlgebra.Slot.Basic

/-!
# Positions of slots

The lookups that pair the two sides of a transform answer with positions.  Here is what stands at
the position that a lookup answers with: an anonymous slot for an ordinal, and a slot with the
same expression for an expression.  Different ordinals have different positions.  The last section
is about lists of positions: when they are all positions, and what is read at them.
-/

namespace ShapeAlgebra

/-! ## Pairing -/

namespace Slot

/-- A slot is anonymous if it is an ordinal. -/
lemma isAnonymous_iff {s : Slot} : s.isAnonymous = true ↔ ∃ ordinal, s = .anonymous ordinal := by
  cases s <;> simp [isAnonymous]

/-- Only an expression pairs up with an expression, and it has to be the same one. -/
lemma pairs_expr_iff {s : Slot} {e : Expr} :
    s.pairs (.expr e) = true ↔ ∃ e', s = .expr e' ∧ e'.same e = true := by
  cases s <;> simp [pairs]

/-- Only the anonymous slot of the same ordinal pairs up with an anonymous slot. -/
lemma pairs_anonymous_iff {s : Slot} {ordinal : Nat} :
    s.pairs (.anonymous ordinal) = true ↔ s = .anonymous ordinal := by
  cases s <;> simp [pairs]

end Slot

namespace Slots

/-! ## Anonymous slots -/

/-- The positions of the anonymous slots are those that hold one. -/
lemma mem_anonymousPositions_iff {slots : Slots} {position : Nat} :
    position ∈ slots.anonymousPositions ↔
      ∃ ordinal, slots[position]? = some (.anonymous ordinal) := by
  unfold anonymousPositions
  simp only [List.mem_map, List.mem_filter]
  constructor
  · rintro ⟨⟨slot, i⟩, ⟨hmem, hanon⟩, rfl⟩
    rw [List.mk_mem_zipIdx_iff_getElem?] at hmem
    cases slot with
    | anonymous ordinal => exact ⟨ordinal, hmem⟩
    | expr _ => simp [Slot.isAnonymous] at hanon
    | inferred => simp [Slot.isAnonymous] at hanon
  · rintro ⟨ordinal, h⟩
    exact ⟨(.anonymous ordinal, position), ⟨List.mk_mem_zipIdx_iff_getElem?.2 h, rfl⟩, rfl⟩

/-- The positions are listed in order. -/
lemma anonymousPositions_sublist (slots : Slots) :
    slots.anonymousPositions.Sublist (List.range slots.length) := by
  rw [List.range_eq_range', ← List.zipIdx_map_snd]
  exact List.filter_sublist.map Prod.snd

/-- No position is listed twice. -/
lemma nodup_anonymousPositions (slots : Slots) : slots.anonymousPositions.Nodup :=
  List.nodup_range.sublist slots.anonymousPositions_sublist

/-- At the position of an ordinal stands an anonymous slot. -/
lemma getElem?_of_anonymousPosition? {slots : Slots} {ordinal position : Nat}
    (h : slots.anonymousPosition? ordinal = some position) :
    ∃ ordinal', slots[position]? = some (.anonymous ordinal') :=
  mem_anonymousPositions_iff.1 (List.mem_of_getElem? h)

/-- The position that is found for an ordinal is one of the slots. -/
lemma lt_length_of_anonymousPosition? {slots : Slots} {ordinal position : Nat}
    (h : slots.anonymousPosition? ordinal = some position) : position < slots.length := by
  obtain ⟨ordinal', hslot⟩ := getElem?_of_anonymousPosition? h
  exact (List.getElem?_eq_some_iff.1 hslot).1

/-- Different ordinals have different positions. -/
lemma anonymousPosition?_inj {slots : Slots} {i j position : Nat}
    (hi : slots.anonymousPosition? i = some position)
    (hj : slots.anonymousPosition? j = some position) : i = j := by
  obtain ⟨hlti, hgeti⟩ := List.getElem?_eq_some_iff.1 hi
  obtain ⟨hltj, hgetj⟩ := List.getElem?_eq_some_iff.1 hj
  exact (slots.nodup_anonymousPositions.getElem_inj_iff).1 (hgeti.trans hgetj.symm)

/-! ## Expressions -/

/-- An expression is looked up at the first slot that pairs up with it. -/
lemma positionOf?_eq_findIdx? (slots : Slots) (e : Expr) :
    slots.positionOf? e = slots.findIdx? (·.pairs (.expr e)) := by
  unfold positionOf?
  congr 1
  funext slot
  cases slot <;> rfl

/-- At the position of an expression stands the same expression. -/
lemma getElem?_of_positionOf? {slots : Slots} {e : Expr} {position : Nat}
    (h : slots.positionOf? e = some position) :
    ∃ e', slots[position]? = some (.expr e') ∧ e'.same e = true := by
  rw [positionOf?_eq_findIdx?, List.findIdx?_eq_some_iff_getElem] at h
  obtain ⟨hlt, hpairs, _⟩ := h
  obtain ⟨e', hslot, hsame⟩ := Slot.pairs_expr_iff.1 hpairs
  exact ⟨e', by rw [List.getElem?_eq_getElem hlt, hslot], hsame⟩

/-- An expression that pairs up with a slot is found. -/
lemma exists_positionOf? {slots : Slots} {e : Expr} {slot : Slot} (hslot : slot ∈ slots)
    (hpairs : slot.pairs (.expr e) = true) : ∃ position, slots.positionOf? e = some position := by
  rw [positionOf?_eq_findIdx?, ← Option.isSome_iff_exists, List.findIdx?_isSome]
  exact List.any_eq_true.2 ⟨slot, hslot, hpairs⟩

/-- The position that is found for an expression is one of the slots. -/
lemma lt_length_of_positionOf? {slots : Slots} {e : Expr} {position : Nat}
    (h : slots.positionOf? e = some position) : position < slots.length := by
  obtain ⟨e', hslot, _⟩ := getElem?_of_positionOf? h
  exact (List.getElem?_eq_some_iff.1 hslot).1

end Slots

/-! ## Lists of positions -/

/-- Positions without repetition that are as many as there are are all of them. -/
lemma perm_range_of_nodup {positions : List Nat} {count : Nat} (hlen : positions.length = count)
    (hlt : ∀ position ∈ positions, position < count) (hnodup : positions.Nodup) :
    positions.Perm (List.range count) := by
  have hsub : positions ⊆ List.range count :=
    fun position hposition => List.mem_range.2 (hlt position hposition)
  exact (hnodup.subperm hsub).perm_of_length_le (Nat.le_of_eq (List.length_range.trans hlen.symm))

/-- What `xs` holds at `positions`. -/
def readAt {α : Type} (positions : List Nat) (xs : List α) : List α :=
  positions.filterMap (xs[·]?)

section ReadAt

variable {α : Type} {positions : List Nat} {xs out : List α} {index position : Nat}

/-- What is read at positions is known from what stands there. -/
lemma readAt_eq_of_forall₂
    (h : List.Forall₂ (fun position x => xs[position]? = some x) positions out) :
    readAt positions xs = out := by
  induction h with
  | nil => rfl
  | cons hx _ ih => rw [readAt, List.filterMap_cons_some hx, ← readAt, ih]

/-- In the order of its positions a list is itself. -/
lemma readAt_range (xs : List α) : readAt (List.range xs.length) xs = xs := by
  refine readAt_eq_of_forall₂ ?_
  rw [List.forall₂_iff_get]
  simp

/-- At positions inside of the list something is read each time. -/
lemma forall₂_readAt (h : ∀ position ∈ positions, position < xs.length) :
    List.Forall₂ (fun position x => xs[position]? = some x) positions (readAt positions xs) := by
  have hread : ∀ position ∈ positions, ∃ x, xs[position]? = some x :=
    fun position hposition => ⟨_, List.getElem?_eq_getElem (h position hposition)⟩
  obtain ⟨out, hout⟩ := exists_forall₂ hread
  rwa [readAt_eq_of_forall₂ hout]

/-- As much is read as there are positions inside of the list. -/
lemma length_readAt (h : ∀ position ∈ positions, position < xs.length) :
    (readAt positions xs).length = positions.length :=
  (forall₂_readAt h).length_eq.symm

/-- What is read at an index stands at the position with that index. -/
lemma getElem?_readAt (h : ∀ position ∈ positions, position < xs.length)
    (hposition : positions[index]? = some position) :
    (readAt positions xs)[index]? = xs[position]? := by
  have hlt : index < (readAt positions xs).length := by
    rw [length_readAt h]
    exact (List.getElem?_eq_some_iff.1 hposition).1
  have hx := List.getElem?_eq_getElem hlt
  rw [hx, rel_of_getElem? (forall₂_readAt h) hposition hx]

/-- What is read at positions that were themselves read is read in two steps. -/
lemma readAt_readAt (h : ∀ position ∈ positions, position < xs.length) (indices : List Nat) :
    readAt indices (readAt positions xs) = readAt (readAt indices positions) xs := by
  have htwice : readAt (readAt indices positions) xs =
      indices.filterMap fun index => positions[index]?.bind (xs[·]?) :=
    List.filterMap_filterMap
  rw [htwice]
  refine List.filterMap_congr fun index _ => ?_
  cases hposition : positions[index]? with
  | none =>
    rw [List.getElem?_eq_none_iff, ← length_readAt h] at hposition
    exact List.getElem?_eq_none hposition
  | some position => exact getElem?_readAt h hposition

/-- What is put in at a position is read where the position is listed. -/
lemma readAt_set (h : ∀ position ∈ positions, position < xs.length) (hnodup : positions.Nodup)
    (hposition : positions[index]? = some position) (x : α) :
    readAt positions (xs.set position x) = (readAt positions xs).set index x := by
  have hset : ∀ position' ∈ positions, position' < (xs.set position x).length := by
    rw [List.length_set]
    exact h
  have hlen : (readAt positions (xs.set position x)).length =
      ((readAt positions xs).set index x).length := by
    rw [length_readAt hset, List.length_set, length_readAt h]
  refine List.ext_getElem? fun i => ?_
  cases hi : positions[i]? with
  | none =>
    rw [List.getElem?_eq_none_iff, ← length_readAt hset] at hi
    rw [List.getElem?_eq_none hi, List.getElem?_eq_none (hlen ▸ hi)]
  | some position' =>
    have hmem := List.mem_of_getElem? hi
    have hlt : i < (readAt positions xs).length := by
      rw [length_readAt h]
      exact (List.getElem?_eq_some_iff.1 hi).1
    rw [getElem?_readAt hset hi]
    by_cases heq : index = i
    · subst heq
      obtain rfl := Option.some.inj (hi.symm.trans hposition)
      rw [List.getElem?_set_self (h _ hmem), List.getElem?_set_self hlt]
    · -- positions at different indices differ, since none is listed twice
      have hne : position ≠ position' := by
        rintro rfl
        have hindex := (List.getElem?_eq_some_iff.1 hposition).1
        exact heq ((List.getElem?_inj hindex hnodup).1 (hposition.trans hi.symm))
      rw [List.getElem?_set_ne hne, List.getElem?_set_ne heq, getElem?_readAt h hi]

/-- Where all elements are equal it does not matter at which positions they are read. -/
lemma readAt_replicate {count : Nat} (h : ∀ position ∈ positions, position < count) (x : α) :
    readAt positions (List.replicate count x) = List.replicate positions.length x := by
  have hreplicate : ∀ position ∈ positions, position < (List.replicate count x).length := by
    rw [List.length_replicate]
    exact h
  refine List.eq_replicate_iff.2 ⟨length_readAt hreplicate, fun y hy => ?_⟩
  obtain ⟨position, _, hposition⟩ := List.mem_filterMap.1 hy
  exact List.eq_of_mem_replicate (List.mem_of_getElem? hposition)

/-- At the positions of a permutation a list can be read. -/
lemma exists_forall₂_getElem? (hpositions : positions.Perm (List.range xs.length)) :
    ∃ out, List.Forall₂ (fun position x => xs[position]? = some x) positions out :=
  ⟨_, forall₂_readAt fun _ hposition => List.mem_range.1 (hpositions.subset hposition)⟩

/-- What is read at the positions of a permutation is the list, rearranged. -/
lemma perm_readAt (hpositions : positions.Perm (List.range xs.length)) :
    (readAt positions xs).Perm xs := by
  have hperm : (readAt positions xs).Perm (readAt (List.range xs.length) xs) :=
    hpositions.filterMap _
  rwa [readAt_range] at hperm

/-- What is read at a rearrangement of all positions is a rearrangement of the list. -/
lemma perm_of_forall₂_getElem? (hpositions : positions.Perm (List.range xs.length))
    (hout : List.Forall₂ (fun position x => xs[position]? = some x) positions out) :
    out.Perm xs := by
  rw [← readAt_eq_of_forall₂ hout]
  exact perm_readAt hpositions

end ReadAt

end ShapeAlgebra
