import ShapeAlgebra.Proofs.Resolve.Source
import ShapeAlgebra.Proofs.Slot.Position
import ShapeAlgebra.Proofs.Spec.Numbering
import ShapeAlgebra.Resolve.Permute

/-!
# The contract of a permutation

Every slot of the target comes from a position of the source that holds a slot pairing with it,
the anonymous ones by ordinal.  No position is used twice: a slot that is not anonymous avoids the
positions taken before it, and anonymous slots of different ordinals have different positions.  Two
sides of the same length therefore give a permutation of the axes.
-/

namespace ShapeAlgebra.Resolve

variable {spec : String} {source target : Slots} {trapped : Prop}

/-- What stands at the position of the source that a slot of the target comes from. -/
def ComesFrom (source : Slots) : Slot → Nat → Prop
  | .anonymous ordinal, position => Slots.anonymousPosition? source ordinal = some position
  | slot, position => ∃ s, source[position]? = some s ∧ s.pairs slot = true

/-- An expression comes from a slot that pairs up with it. -/
lemma comesFrom_expr {e : Expr} {position : Nat} :
    ComesFrom source (.expr e) position ↔
      ∃ s, source[position]? = some s ∧ s.pairs (.expr e) = true := Iff.rfl

/-- A slot comes from a position inside of the source. -/
lemma ComesFrom.lt_length {slot : Slot} {position : Nat} (h : ComesFrom source slot position) :
    position < source.length := by
  cases slot with
  | anonymous ordinal => exact Slots.lt_length_of_anonymousPosition? h
  | expr e =>
    obtain ⟨s, hs, _⟩ := h
    exact (List.getElem?_eq_some_iff.1 hs).1
  | inferred =>
    obtain ⟨s, hs, _⟩ := h
    exact (List.getElem?_eq_some_iff.1 hs).1

/-- The first free position is free, and holds a slot that pairs up. -/
lemma getElem?_of_firstFree? {taken : List Nat} {slot : Slot} {position : Nat}
    (h : firstFree? source taken slot = some position) :
    position ∉ taken ∧ ∃ s, source[position]? = some s ∧ s.pairs slot = true := by
  unfold firstFree? at h
  obtain ⟨⟨s, i⟩, hfind, rfl⟩ := Option.map_eq_some_iff.1 h
  have hprop := List.find?_some hfind
  have hmem := List.mem_of_find?_eq_some hfind
  rw [List.mk_mem_zipIdx_iff_getElem?] at hmem
  simp only [Bool.and_eq_true, Bool.not_eq_true', List.contains_eq_mem,
    decide_eq_false_iff_not] at hprop
  exact ⟨hprop.1, s, hmem, hprop.2⟩

/-- The origin of a slot is where it comes from. -/
lemma comesFrom_of_origin? {taken : List Nat} {slot : Slot} {position : Nat}
    (h : origin? source taken slot = some position) : ComesFrom source slot position := by
  cases slot with
  | anonymous ordinal => exact h
  | expr e => exact (getElem?_of_firstFree? h).2
  | inferred => exact (getElem?_of_firstFree? h).2

/-- A position that is taken already can only be that of an anonymous slot. -/
lemma isAnonymous_of_origin?_mem {taken : List Nat} {slot : Slot} {position : Nat}
    (h : origin? source taken slot = some position) (hmem : position ∈ taken) :
    ∃ ordinal, slot = .anonymous ordinal := by
  cases slot with
  | anonymous ordinal => exact ⟨ordinal, rfl⟩
  | expr e => exact absurd hmem (getElem?_of_firstFree? h).1
  | inferred => exact absurd hmem (getElem?_of_firstFree? h).1

/-- Slots that come from the position of an ordinal are anonymous, and of that ordinal. -/
lemma ComesFrom.eq_anonymous {slot : Slot} {ordinal position : Nat}
    (h : ComesFrom source slot position)
    (hposition : Slots.anonymousPosition? source ordinal = some position) :
    slot = .anonymous ordinal := by
  obtain ⟨ordinal', hslot⟩ := Slots.getElem?_of_anonymousPosition? hposition
  cases slot with
  | anonymous k => rw [Slots.anonymousPosition?_inj h hposition]
  | expr e =>
    obtain ⟨s, hs, hpairs⟩ := h
    rw [hslot] at hs
    obtain rfl := Option.some.inj hs
    cases hpairs
  | inferred =>
    obtain ⟨s, hs, hpairs⟩ := h
    rw [hslot] at hs
    obtain rfl := Option.some.inj hs
    cases hpairs

/-! ## Origins -/

/-- What the origins of the slots of `target` satisfy when the positions in `taken` are used up.
They may meet a position in `taken` again only where an ordinal of the target stands, which is
what carries the induction over the target. -/
structure AreOrigins (source : Slots) (taken : List Nat) (target : Slots) (axes : List Nat) :
    Prop where
  comesFrom : List.Forall₂ (ComesFrom source) target axes
  nodup : axes.Nodup
  taken_again : ∀ position ∈ axes, position ∈ taken →
    ∃ ordinal ∈ target.ordinals, Slots.anonymousPosition? source ordinal = some position

/-- No slot needs no origin. -/
lemma AreOrigins.nil {taken : List Nat} : AreOrigins source taken [] [] :=
  ⟨.nil, .nil, fun _ hmem => absurd hmem List.not_mem_nil⟩

/-- The origin of one more slot in front is taken for those behind it. -/
lemma AreOrigins.cons {taken axes : List Nat} {slot : Slot} {position : Nat}
    (hnum : (Slots.ordinals (slot :: target)).Nodup)
    (hposition : origin? source taken slot = some position)
    (h : AreOrigins source (position :: taken) target axes) :
    AreOrigins source taken (slot :: target) (position :: axes) := by
  have hcomes := comesFrom_of_origin? hposition
  refine ⟨.cons hcomes h.comesFrom, List.nodup_cons.2 ⟨fun hmem => ?_, h.nodup⟩, ?_⟩
  · -- the position would come back for an ordinal that the target has in front already
    obtain ⟨ordinal, hordinal, hagain⟩ := h.taken_again position hmem List.mem_cons_self
    obtain rfl := hcomes.eq_anonymous hagain
    have hordinals : Slots.ordinals (.anonymous ordinal :: target) =
      ordinal :: Slots.ordinals target := rfl
    rw [hordinals] at hnum
    exact (List.nodup_cons.1 hnum).1 hordinal
  · intro q hq hqtaken
    rcases List.mem_cons.1 hq with rfl | hq
    · obtain ⟨ordinal, rfl⟩ := isAnonymous_of_origin?_mem hposition hqtaken
      exact ⟨ordinal, Slots.mem_ordinals_iff.2 List.mem_cons_self, hposition⟩
    · obtain ⟨ordinal, hordinal, hq⟩ :=
        h.taken_again q hq (List.mem_cons_of_mem position hqtaken)
      rw [Slots.mem_ordinals_iff] at hordinal
      exact ⟨ordinal, Slots.mem_ordinals_iff.2 (List.mem_cons_of_mem slot hordinal), hq⟩

/-- Every slot of the target comes from a position of the source, and no position is used twice if
no ordinal is. -/
lemma meets_origins {taken : List Nat} :
    Meets (origins spec source taken target)
      (fun axes => List.Forall₂ (ComesFrom source) target axes ∧
        (target.ordinals.Nodup → AreOrigins source taken target axes))
      fun e => e.spec = spec := by
  induction target generalizing taken with
  | nil => exact ⟨.nil, fun _ => .nil⟩
  | cons slot target ih =>
    simp only [origins]
    split
    · rename_i position hposition
      refine ih.bind fun axes haxes => ⟨.cons (comesFrom_of_origin? hposition) haxes.1, ?_⟩
      intro hnum
      have hrest : (Slots.ordinals target).Nodup :=
        hnum.sublist ((List.sublist_cons_self slot target).filterMap Slot.ordinal?)
      exact (haxes.2 hrest).cons hnum hposition
    · rfl

/-- What a permutation is made of, whatever the ordinals of its target are. -/
theorem meets_permute_comesFrom :
    Meets (permute spec source target)
      (fun axes => source.length = target.length ∧
        List.Forall₂ (ComesFrom source) target axes ∧ (target.ordinals.Nodup → axes.Nodup))
      (ReportedFor spec False) := by
  unfold permute
  split
  · rfl
  · split
    · rfl
    · rename_i hlen
      refine Meets.ofExcept (meets_origins.imp (fun axes h => ?_) fun _ hspec => hspec)
      exact ⟨not_not.1 hlen, h.1, fun hnum => (h.2 hnum).nodup⟩

/-- What a permutation is made of. -/
theorem meets_permute (hnum : target.Numbered) :
    Meets (permute spec source target)
      (fun axes => source.length = target.length ∧
        List.Forall₂ (ComesFrom source) target axes ∧ axes.Nodup)
      (ReportedFor spec False) := by
  refine meets_permute_comesFrom.imp (fun axes h => ?_) fun _ hbad => hbad
  exact ⟨h.1, h.2.1, h.2.2 hnum.nodup⟩

end ShapeAlgebra.Resolve
