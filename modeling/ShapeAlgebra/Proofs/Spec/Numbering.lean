import Mathlib.Data.List.Range
import ShapeAlgebra.Proofs.Outcome
import ShapeAlgebra.Spec.Basic

/-!
# The numbering of anonymous slots

The slots of a side are read off their texts one by one, and the anonymous ones among them carry the
ordinals from zero on, in order.  The reader threads the next ordinal through the slots, so the
induction is on the texts of the slots with the next ordinal as a parameter.  Slots that have been
moved about are `renumbered` in the same way.
-/

namespace ShapeAlgebra

variable {r : Registry} {mode : NumberMode} {spec : String}

/-- The ordinal of an anonymous slot. -/
def Slot.ordinal? : Slot → Option Nat
  | .anonymous ordinal => some ordinal
  | _ => none

namespace Slots

/-- The ordinals of the anonymous slots, in order. -/
def ordinals (slots : Slots) : List Nat := slots.filterMap Slot.ordinal?

/-- The anonymous slots carry the ordinals from zero on. -/
def Numbered (slots : Slots) : Prop := slots.ordinals = List.range slots.anonymousCount

/-- The ordinals are those of the anonymous slots. -/
lemma mem_ordinals_iff {slots : Slots} {ordinal : Nat} :
    ordinal ∈ slots.ordinals ↔ .anonymous ordinal ∈ slots := by
  unfold ordinals
  rw [List.mem_filterMap]
  constructor
  · rintro ⟨slot, hmem, hslot⟩
    cases slot with
    | anonymous k =>
      obtain rfl := Option.some.inj hslot
      exact hmem
    | expr _ => cases hslot
    | inferred => cases hslot
  · intro h
    exact ⟨.anonymous ordinal, h, rfl⟩

/-- No two anonymous slots of a numbered side have the same ordinal. -/
lemma Numbered.nodup {slots : Slots} (h : slots.Numbered) : slots.ordinals.Nodup := by
  rw [h]
  exact List.nodup_range

end Slots

namespace Spec

/-- The first text is read as the first slot, and the other texts with the ordinal behind it. -/
lemma readSlots_cons_eq_ok_iff {next : Nat} {raw : List Char} {raws : List (List Char)}
    {slots : Slots} : readSlots r mode spec next (raw :: raws) = .ok slots ↔
      ∃ slot rest, slots = slot :: rest ∧ readSlot r mode spec next raw = .ok slot ∧
        readSlots r mode spec (nextOrdinal next slot) raws = .ok rest := by
  constructor
  · intro h
    obtain ⟨slot, hslot, htail⟩ := bind_eq_ok_iff.1 h
    obtain ⟨rest, hrest, hcons⟩ := bind_eq_ok_iff.1 htail
    exact ⟨slot, rest, (Except.ok.inj hcons).symm, hslot, hrest⟩
  · rintro ⟨slot, rest, rfl, hslot, hrest⟩
    exact bind_eq_ok_iff.2 ⟨slot, hslot, bind_eq_ok_iff.2 ⟨rest, hrest, rfl⟩⟩

/-- The texts that are read are read as the slots, one by one. -/
lemma forall₂_readSlot_of_readSlots {next : Nat} {raws : List (List Char)} {slots : Slots}
    (h : readSlots r mode spec next raws = .ok slots) :
    List.Forall₂ (fun raw slot => ∃ ordinal, readSlot r mode spec ordinal raw = .ok slot)
      raws slots := by
  induction raws generalizing next slots with
  | nil =>
    obtain rfl := Except.ok.inj h
    exact .nil
  | cons raw raws ih =>
    obtain ⟨slot, rest, rfl, hslot, htail⟩ := readSlots_cons_eq_ok_iff.1 h
    exact .cons ⟨next, hslot⟩ (ih htail)

/-- An anonymous slot gets the ordinal that is next. -/
lemma eq_anonymous_of_readSlot {next : Nat} {raw : List Char} {slot : Slot}
    (h : readSlot r mode spec next raw = .ok slot) (hanon : slot.isAnonymous = true) :
    slot = .anonymous next := by
  unfold readSlot at h
  split at h
  · exact (Except.ok.inj h).symm
  · split at h
    · obtain rfl := Except.ok.inj h
      cases hanon
    · obtain ⟨e, _, rfl⟩ := map_eq_ok_iff.1 h
      cases hanon

/-- Anonymous slots that are read one after the other are numbered on from where reading starts. -/
lemma ordinals_of_readSlots {next : Nat} {raws : List (List Char)} {slots : Slots}
    (h : readSlots r mode spec next raws = .ok slots) :
    slots.ordinals = List.range' next slots.anonymousCount := by
  induction raws generalizing next slots with
  | nil =>
    obtain rfl := Except.ok.inj h
    rfl
  | cons raw raws ih =>
    obtain ⟨slot, rest, rfl, hslot, htail⟩ := readSlots_cons_eq_ok_iff.1 h
    have htail' := ih htail
    unfold nextOrdinal at htail'
    cases hanon : slot.isAnonymous with
    | true =>
      -- an anonymous slot takes the next ordinal, and counting goes on behind it
      obtain rfl := eq_anonymous_of_readSlot hslot hanon
      rw [if_pos hanon] at htail'
      change next :: Slots.ordinals rest = _
      rw [htail', Slots.anonymousCount, Slots.anonymousCount, List.countP_cons_of_pos hanon,
        List.range'_succ]
    | false =>
      rw [if_neg (by simp [hanon])] at htail'
      have hnone : slot.ordinal? = none := by
        cases slot with
        | anonymous _ => cases hanon
        | expr _ => rfl
        | inferred => rfl
      rw [Slots.ordinals, List.filterMap_cons_none hnone, Slots.anonymousCount,
        List.countP_cons_of_neg (by simp [hanon])]
      exact htail'

/-- The slots of a side are numbered. -/
lemma numbered_of_readSide {side : List Char} {slots : Slots}
    (h : readSide r mode spec side = .ok slots) : slots.Numbered := by
  unfold Slots.Numbered
  rw [List.range_eq_range']
  exact ordinals_of_readSlots h

end Spec

/-! ## Numbering again -/

/-- The slot with `ordinal` for its ordinal if it is anonymous. -/
def Slot.withOrdinal (ordinal : Nat) : Slot → Slot
  | .anonymous _ => .anonymous ordinal
  | slot => slot

namespace Slots

/-- The slots with the ordinals of the anonymous ones counted from `next` on. -/
def renumberedFrom (next : Nat) : Slots → Slots
  | [] => []
  | slot :: slots => slot.withOrdinal next :: renumberedFrom (Spec.nextOrdinal next slot) slots

/-- The slots with the anonymous ones numbered from the left. -/
def renumbered (slots : Slots) : Slots := slots.renumberedFrom 0

/-- Numbering again gives consecutive ordinals. -/
lemma ordinals_renumberedFrom (next : Nat) (slots : Slots) :
    (slots.renumberedFrom next).ordinals =
      List.range' next (slots.renumberedFrom next).anonymousCount := by
  induction slots generalizing next with
  | nil => rfl
  | cons slot slots ih =>
    have hrest := ih (Spec.nextOrdinal next slot)
    unfold ordinals anonymousCount at hrest ⊢
    rw [renumberedFrom, List.filterMap_cons, hrest, List.countP_cons]
    cases slot <;> rfl

/-- Slots that are numbered again are numbered. -/
lemma numbered_renumbered (slots : Slots) : slots.renumbered.Numbered := by
  unfold Numbered
  rw [List.range_eq_range']
  exact ordinals_renumberedFrom 0 slots

/-! ## Written sides -/

/-- The slots are what a side of some spec stands for, over some registry. -/
def Written (slots : Slots) : Prop :=
  ∃ r mode spec side, Spec.readSide r mode spec side = .ok slots

/-- The slots of a written side are numbered. -/
lemma Written.numbered {slots : Slots} (h : slots.Written) : slots.Numbered := by
  obtain ⟨r, mode, spec, side, hread⟩ := h
  exact Spec.numbered_of_readSide hread

end Slots

end ShapeAlgebra
