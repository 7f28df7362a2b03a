import Mathlib.Data.List.Basic
import ShapeAlgebra.Proofs.Slot.Position
import ShapeAlgebra.Proofs.Spec.Numbering

/-!
# Slots that are alike

Two slots are alike when they are the same expression, both anonymous, or both to be inferred.
Slots that pair up are alike, and the other way round they differ in the ordinals of anonymous slots
only.  Being alike is an equivalence, so the slots of a side that are like a given one can be
counted from the left: `HoldsNth` says where the one stands that has a given number of others before
it.  There is one such position as long as there are slots enough, and for an anonymous slot it is
the position that its ordinal is looked up at.  Among distinct slots an expression needs no rank:
the slot that pairs up with it is where it is looked up.
-/

namespace ShapeAlgebra

namespace Expr

/-- The expression with nothing left of its dimensions but their symbols. -/
def bySymbol (e : Expr) : Expr := e.substitute fun d => some (.var ⟨⟨"", d.symbol, none⟩, 0⟩)

/-- Expressions are the same when they have the same form over the same symbols. -/
lemma same_iff_bySymbol_eq {a b : Expr} : a.same b = true ↔ a.bySymbol = b.bySymbol := by
  unfold bySymbol
  induction a generalizing b with
  | var d => cases b <;> simp [Dim.sameAxis, same]
  | lit n => cases b <;> simp [same]
  | binary op l r ihl ihr =>
    cases b with
    | var _ => simp [same]
    | lit _ => simp [same]
    | binary op' l' r' => simp [ihl, ihr, and_assoc]

/-- Being the same does not depend on which expression comes first. -/
lemma same_comm (a b : Expr) : a.same b = b.same a := by
  rw [Bool.eq_iff_iff, same_iff_bySymbol_eq, same_iff_bySymbol_eq, eq_comm]

end Expr

namespace Slot

/-- It does not matter which of two slots is which when they pair up. -/
lemma pairs_comm (s t : Slot) : s.pairs t = t.pairs s := by
  cases s with
  | expr a =>
    cases t with
    | expr b => exact a.same_comm b
    | anonymous _ => rfl
    | inferred => rfl
  | anonymous i =>
    cases t with
    | expr _ => rfl
    | anonymous j => exact Bool.beq_comm
    | inferred => rfl
  | inferred => cases t <;> rfl

/-- Whether two slots are alike: the same expression, both anonymous, or both to be inferred. -/
def alike : Slot → Slot → Bool
  | .expr a, .expr b => a.same b
  | .anonymous _, .anonymous _ => true
  | .inferred, .inferred => true
  | _, _ => false

/-- The slot with nothing left but what makes others like it. -/
def kind : Slot → Slot
  | .expr e => .expr e.bySymbol
  | .anonymous _ => .anonymous 0
  | .inferred => .inferred

/-- Slots are alike when they are of one kind. -/
lemma alike_iff_kind_eq {s t : Slot} : s.alike t = true ↔ s.kind = t.kind := by
  cases s <;> cases t <;> simp [alike, kind, Expr.same_iff_bySymbol_eq]

@[simp]
lemma alike_self (s : Slot) : s.alike s = true := alike_iff_kind_eq.2 rfl

/-- Being alike does not depend on which slot comes first. -/
lemma alike_comm (s t : Slot) : s.alike t = t.alike s := by
  rw [Bool.eq_iff_iff, alike_iff_kind_eq, alike_iff_kind_eq, eq_comm]

/-- Being alike can be taken in two steps. -/
lemma alike_trans {s t u : Slot} (hst : s.alike t = true) (htu : t.alike u = true) :
    s.alike u = true :=
  alike_iff_kind_eq.2 ((alike_iff_kind_eq.1 hst).trans (alike_iff_kind_eq.1 htu))

/-- Slots that are alike are like the same slots. -/
lemma alike_congr {s t : Slot} (h : s.alike t = true) (u : Slot) : u.alike s = u.alike t := by
  rw [Bool.eq_iff_iff, alike_iff_kind_eq, alike_iff_kind_eq, alike_iff_kind_eq.1 h]

/-- Slots that pair up are alike. -/
lemma alike_of_pairs {s t : Slot} (h : s.pairs t = true) : s.alike t = true := by
  cases s with
  | expr a => cases t <;> exact h
  | anonymous i =>
    cases t with
    | expr _ => cases h
    | anonymous j => rfl
    | inferred => cases h
  | inferred => cases t <;> exact h

/-- Only the ordinals of anonymous slots keep slots that are alike from pairing up. -/
lemma pairs_of_alike {s t : Slot} (h : s.alike t = true) (hnot : t.isAnonymous = false) :
    s.pairs t = true := by
  cases t with
  | expr b => cases s <;> exact h
  | anonymous _ => cases hnot
  | inferred => cases s <;> exact h

/-- The slots that are like an anonymous one are the anonymous ones. -/
lemma alike_anonymous (s : Slot) (ordinal : Nat) :
    s.alike (.anonymous ordinal) = s.isAnonymous := by
  cases s <;> rfl

/-- The slots that are like one to be inferred are those to be inferred. -/
lemma alike_inferred (s : Slot) : s.alike .inferred = s.isInferred := by
  cases s <;> rfl

/-- Renumbering does not make a slot another one. -/
lemma alike_withOrdinal (s : Slot) (ordinal : Nat) : s.alike (s.withOrdinal ordinal) = true :=
  alike_iff_kind_eq.2 (by cases s <;> rfl)

end Slot

namespace Slots

variable {slots : Slots} {slot : Slot} {position rank ordinal : Nat}

/-! ## Occurrences -/

/-- The number of slots that are like `slot`. -/
def occurrences (slots : Slots) (slot : Slot) : Nat := slots.countP (·.alike slot)

/-- Slots that are alike occur equally often. -/
lemma occurrences_congr {s t : Slot} (h : s.alike t = true) (slots : Slots) :
    slots.occurrences s = slots.occurrences t := by
  unfold occurrences
  simp only [Slot.alike_congr h]

/-- Occurrences in two parts add up. -/
lemma occurrences_append (before after : Slots) (slot : Slot) :
    occurrences (before ++ after) slot = before.occurrences slot + after.occurrences slot :=
  List.countP_append

/-- All anonymous slots count as occurrences of each other. -/
lemma occurrences_anonymous (slots : Slots) (ordinal : Nat) :
    slots.occurrences (.anonymous ordinal) = slots.anonymousCount := by
  unfold occurrences anonymousCount
  simp only [Slot.alike_anonymous]

/-- The slots `before` and one more. -/
lemma occurrences_concat (before : Slots) (s slot : Slot) :
    occurrences (before ++ [s]) slot =
      before.occurrences slot + if s.alike slot = true then 1 else 0 := by
  rw [occurrences_append]
  simp [occurrences, List.countP_singleton]

/-- A slot occurs no more often in a part. -/
lemma occurrences_take_le (slots : Slots) (slot : Slot) (position : Nat) :
    occurrences (slots.take position) slot ≤ slots.occurrences slot :=
  (List.take_sublist position slots).countP_le

/-! ## Positions by rank -/

/-- At `position` stands the slot like `slot` that has `rank` others before it. -/
def HoldsNth (slots : Slots) (slot : Slot) (rank position : Nat) : Prop :=
  ∃ s, slots[position]? = some s ∧ s.alike slot = true ∧
    occurrences (slots.take position) slot = rank

/-- The position by rank is the one that a search finds, provided there is one. -/
lemma holdsNth_iff_findIdxNth :
    slots.HoldsNth slot rank position ↔
      rank < slots.occurrences slot ∧ slots.findIdxNth (·.alike slot) rank = position := by
  constructor
  · rintro ⟨s, hs, halike, hrank⟩
    obtain ⟨hlt, rfl⟩ := List.getElem?_eq_some_iff.1 hs
    have hbefore : slots.countPBefore (·.alike slot) position = rank :=
      List.countPBefore_eq_countP_take.trans hrank
    rw [← hbefore]
    refine ⟨List.countPBefore_lt_countP_of_lt_length_of_pos halike, ?_⟩
    exact List.findIdxNth_countPBefore_of_lt_length_of_pos halike
  · rintro ⟨hrank, rfl⟩
    have hlt := List.findIdxNth_lt_length_of_lt_countP hrank
    refine ⟨_, List.getElem?_eq_getElem hlt, List.pos_findIdxNth_getElem (h := hlt), ?_⟩
    have hbefore := List.countPBefore_findIdxNth_of_lt_countP hrank
    rwa [List.countPBefore_eq_countP_take] at hbefore

/-- There is such a slot as long as there are enough of them. -/
lemma exists_holdsNth (h : rank < slots.occurrences slot) :
    ∃ position, slots.HoldsNth slot rank position :=
  ⟨_, holdsNth_iff_findIdxNth.2 ⟨h, rfl⟩⟩

/-- A rank is less than the number of occurrences. -/
lemma HoldsNth.lt_occurrences (h : slots.HoldsNth slot rank position) :
    rank < slots.occurrences slot :=
  (holdsNth_iff_findIdxNth.1 h).1

/-- There is one position for each rank. -/
lemma HoldsNth.unique {position' : Nat} (h : slots.HoldsNth slot rank position)
    (h' : slots.HoldsNth slot rank position') : position = position' := by
  have hposition := (holdsNth_iff_findIdxNth.1 h).2
  have hposition' := (holdsNth_iff_findIdxNth.1 h').2
  exact hposition.symm.trans hposition'

/-- Where it stands in a prefix it stands in the whole. -/
lemma HoldsNth.of_take {length : Nat} (h : HoldsNth (slots.take length) slot rank position) :
    position < length ∧ slots.HoldsNth slot rank position := by
  obtain ⟨s, hs, halike, hrank⟩ := h
  have hlt : position < length := by
    have hposition := (List.getElem?_eq_some_iff.1 hs).1
    rw [List.length_take] at hposition
    omega
  rw [List.getElem?_take_of_lt hlt] at hs
  rw [List.take_take, Nat.min_eq_left hlt.le] at hrank
  exact ⟨hlt, s, hs, halike, hrank⟩

/-! ## Anonymous slots -/

/-- The positions of the anonymous slots are those that a search finds. -/
lemma anonymousPositions_eq_findIdxs (slots : Slots) :
    slots.anonymousPositions = slots.findIdxs Slot.isAnonymous := by
  have hfrom : ∀ start, ((slots.zipIdx start).filter fun p => p.1.isAnonymous).map Prod.snd =
      slots.findIdxs Slot.isAnonymous start := by
    induction slots with
    | nil => exact fun _ => rfl
    | cons s slots ih =>
      intro start
      cases hanon : s.isAnonymous <;> simp [hanon, ih]
  exact hfrom 0

/-- An ordinal is looked up at the anonymous slot that has so many others before it. -/
lemma anonymousPosition?_eq_some_iff_holdsNth (ordinal : Nat) :
    slots.anonymousPosition? rank = some position ↔
      slots.HoldsNth (.anonymous ordinal) rank position := by
  have hcount : slots.occurrences (.anonymous ordinal) =
      (slots.findIdxs Slot.isAnonymous).length := by
    rw [occurrences_anonymous, List.length_findIdxs, anonymousCount]
  rw [holdsNth_iff_findIdxNth, hcount, anonymousPosition?, anonymousPositions_eq_findIdxs,
    List.getElem?_eq_some_iff]
  simp only [Slot.alike_anonymous, List.getElem_findIdxs_eq_findIdxNth, exists_prop]

/-! ## Distinct slots -/

/-- No two of the slots pair up. -/
def Distinct (slots : Slots) : Prop := slots.Pairwise fun s t => s.pairs t = false

/-- Of distinct slots only one pairs up with a given one. -/
lemma Distinct.eq_of_pairs {position' : Nat} {s t : Slot} (h : slots.Distinct)
    (hs : slots[position]? = some s) (ht : slots[position']? = some t)
    (hpairs : s.pairs t = true) : position = position' := by
  obtain ⟨hlt, rfl⟩ := List.getElem?_eq_some_iff.1 hs
  obtain ⟨hlt', rfl⟩ := List.getElem?_eq_some_iff.1 ht
  have hdistinct := List.pairwise_iff_getElem.1 h
  rcases Nat.lt_trichotomy position position' with hless | heq | hmore
  · exact absurd hpairs (ne_true_of_eq_false (hdistinct _ _ hlt hlt' hless))
  · exact heq
  · rw [Slot.pairs_comm] at hpairs
    exact absurd hpairs (ne_true_of_eq_false (hdistinct _ _ hlt' hlt hmore))

/-- Of distinct slots any that pairs up with an expression is the one that it is looked up at. -/
lemma Distinct.positionOf?_eq {s : Slot} {e : Expr} (h : slots.Distinct)
    (hs : slots[position]? = some s) (hpairs : s.pairs (.expr e) = true) :
    slots.positionOf? e = some position := by
  obtain ⟨first, hfirst⟩ := exists_positionOf? (List.mem_of_getElem? hs) hpairs
  obtain ⟨e', he', hsame⟩ := getElem?_of_positionOf? hfirst
  have hsame' : (Slot.expr e').pairs (.expr e) = true := hsame
  have halike : s.alike (.expr e') = true := by
    rw [Slot.alike_congr (Slot.alike_of_pairs hsame') s]
    exact Slot.alike_of_pairs hpairs
  obtain rfl := h.eq_of_pairs hs he' (Slot.pairs_of_alike halike rfl)
  exact hfirst

/-! ## Numbered sides -/

/-- There is an ordinal for each anonymous slot. -/
lemma length_ordinals (slots : Slots) : slots.ordinals.length = slots.anonymousCount := by
  induction slots with
  | nil => rfl
  | cons s slots ih =>
    unfold ordinals anonymousCount at ih ⊢
    cases s <;> simp [List.filterMap_cons, List.countP_cons, Slot.ordinal?, Slot.isAnonymous, ih]

/-- An anonymous slot of a numbered side has as many others before it as its ordinal says. -/
lemma Numbered.eq_anonymousCount {before after : Slots}
    (h : Numbered (before ++ .anonymous ordinal :: after)) : ordinal = before.anonymousCount := by
  have hordinals : ordinals (before ++ .anonymous ordinal :: after) =
      before.ordinals ++ ordinal :: ordinals after := List.filterMap_append
  have hget : (ordinals (before ++ .anonymous ordinal :: after))[before.anonymousCount]? =
      some ordinal := by
    rw [hordinals, ← length_ordinals, List.getElem?_append_right le_rfl, Nat.sub_self]
    rfl
  rw [h] at hget
  obtain ⟨_, hrange⟩ := List.getElem?_eq_some_iff.1 hget
  rw [List.getElem_range] at hrange
  exact hrange.symm

/-- Where anonymous slots are numbered from the left, an ordinal counts those before it. -/
lemma Numbered.eq_anonymousCount_take (h : slots.Numbered)
    (hslot : slots[position]? = some (.anonymous ordinal)) :
    ordinal = anonymousCount (slots.take position) := by
  obtain ⟨hlt, hget⟩ := List.getElem?_eq_some_iff.1 hslot
  have hsplit : slots.take position ++ .anonymous ordinal :: slots.drop (position + 1) = slots := by
    rw [← hget, List.getElem_cons_drop, List.take_append_drop]
  rw [← hsplit] at h
  exact h.eq_anonymousCount

/-- Renumbered slots are like the slots that they were. -/
lemma forall₂_alike_renumberedFrom (next : Nat) (slots : Slots) :
    List.Forall₂ (fun s t => Slot.alike s t = true) slots (slots.renumberedFrom next) := by
  induction slots generalizing next with
  | nil => exact .nil
  | cons s slots ih => exact .cons (s.alike_withOrdinal next) (ih _)

/-- On a numbered side an ordinal is looked up where it stands. -/
lemma Numbered.anonymousPosition?_eq_some_iff (h : slots.Numbered) :
    slots.anonymousPosition? ordinal = some position ↔
      slots[position]? = some (.anonymous ordinal) := by
  rw [anonymousPosition?_eq_some_iff_holdsNth ordinal]
  constructor
  · rintro ⟨s, hs, halike, hrank⟩
    rw [Slot.alike_anonymous] at halike
    obtain ⟨ordinal', rfl⟩ := Slot.isAnonymous_iff.1 halike
    rw [occurrences_anonymous, ← h.eq_anonymousCount_take hs] at hrank
    rw [hs, hrank]
  · intro hslot
    refine ⟨_, hslot, Slot.alike_self _, ?_⟩
    rw [occurrences_anonymous, ← h.eq_anonymousCount_take hslot]

end Slots

end ShapeAlgebra
