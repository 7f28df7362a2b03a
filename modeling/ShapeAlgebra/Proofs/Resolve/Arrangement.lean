import ShapeAlgebra.Proofs.Resolve.Permute
import ShapeAlgebra.Proofs.Slot.Alike

/-!
# Permutations as rearrangements

A permutation is resolved slot by slot, and what is taken is never given back.  Still it succeeds
whenever the target has the slots of the source in another order.  The reason is that the positions
taken for some slots of the target are the first ones of their kind in the source, as many as there
have been such slots: so a slot of the target always gets its *counterpart*, the slot of the source
that is like it and has as many others like it before it.  Which slots are counterparts does not
depend on what has been taken, and being counterparts is symmetric and transitive.
-/

namespace ShapeAlgebra

namespace Slots

/-- The slots of `target` are like those of `source` in another order. -/
def Rearranges (source target : Slots) : Prop :=
  ∃ arranged : Slots, arranged.Perm source ∧
    List.Forall₂ (fun s t => Slot.alike s t = true) arranged target

/-- A rearrangement has as many slots. -/
lemma Rearranges.length_eq {source target : Slots} (h : source.Rearranges target) :
    source.length = target.length := by
  obtain ⟨arranged, hperm, halike⟩ := h
  exact hperm.length_eq.symm.trans halike.length_eq

/-- A rearrangement has as many slots like a given one. -/
lemma Rearranges.occurrences_eq {source target : Slots} (h : source.Rearranges target)
    (slot : Slot) : source.occurrences slot = target.occurrences slot := by
  obtain ⟨arranged, hperm, halike⟩ := h
  have hsource : source.occurrences slot = arranged.occurrences slot :=
    hperm.symm.countP_eq _
  rw [hsource]
  clear hsource hperm
  induction halike with
  | nil => rfl
  | @cons s t _ _ hst _ ih =>
    have hhead : s.alike slot = t.alike slot := by
      rw [s.alike_comm, t.alike_comm]
      exact Slot.alike_congr hst slot
    unfold occurrences at ih ⊢
    rw [List.countP_cons, List.countP_cons, ih, hhead]

/-- A rearrangement has as many anonymous slots. -/
lemma Rearranges.anonymousCount_eq {source target : Slots} (h : source.Rearranges target) :
    source.anonymousCount = target.anonymousCount := by
  rw [← occurrences_anonymous source 0, ← occurrences_anonymous target 0]
  exact h.occurrences_eq _

/-- A rearrangement has a slot to be inferred if the source has one. -/
lemma Rearranges.any_isInferred_eq {source target : Slots} (h : source.Rearranges target) :
    source.any Slot.isInferred = target.any Slot.isInferred := by
  have hcount (slots : Slots) :
      slots.any Slot.isInferred = true ↔ 0 < slots.occurrences .inferred := by
    simp [occurrences, Slot.alike_inferred, List.countP_pos_iff]
  rw [Bool.eq_iff_iff, hcount, hcount, h.occurrences_eq]

end Slots

namespace Resolve

variable {spec : String} {source target : Slots} {taken axes : List Nat}

/-! ## Counterparts -/

/-- The slots at `axis` in `source` and at `index` in `target` are alike, and as many slots like
them stand before the one as before the other. -/
def Counterparts (source : Slots) (axis : Nat) (target : Slots) (index : Nat) : Prop :=
  ∃ slot, target[index]? = some slot ∧
    source.HoldsNth slot (Slots.occurrences (target.take index) slot) axis

namespace Counterparts

variable {middle : Slots} {axis axis' index between : Nat}

/-- Every slot is its own counterpart. -/
lemma refl {slots : Slots} (h : index < slots.length) : Counterparts slots index slots index :=
  ⟨slots[index], List.getElem?_eq_getElem h, slots[index], List.getElem?_eq_getElem h,
    Slot.alike_self _, rfl⟩

/-- Counterparts are so in both directions. -/
lemma symm (h : Counterparts source axis target index) :
    Counterparts target index source axis := by
  obtain ⟨t, ht, s, hs, halike, hrank⟩ := h
  refine ⟨s, hs, t, ht, t.alike_comm s ▸ halike, ?_⟩
  rw [Slots.occurrences_congr halike, Slots.occurrences_congr halike, hrank]

/-- The counterpart of a counterpart is a counterpart. -/
lemma trans (h : Counterparts source axis middle between)
    (h' : Counterparts middle between target index) : Counterparts source axis target index := by
  obtain ⟨t, ht, u, hu, hut, hrank'⟩ := h'
  obtain ⟨u', hu', s, hs, hsu, hrank⟩ := h
  obtain rfl : u = u' := Option.some.inj (hu.symm.trans hu')
  refine ⟨t, ht, s, hs, Slot.alike_trans hsu hut, ?_⟩
  rw [← hrank', ← Slots.occurrences_congr hut, ← Slots.occurrences_congr hut, hrank]

/-- A slot has one counterpart at most. -/
lemma unique (h : Counterparts source axis target index)
    (h' : Counterparts source axis' target index) : axis = axis' := by
  obtain ⟨t, ht, hnth⟩ := h
  obtain ⟨t', ht', hnth'⟩ := h'
  obtain rfl : t = t' := Option.some.inj (ht.symm.trans ht')
  exact hnth.unique hnth'

/-- Counterparts are alike. -/
lemma exists_alike (h : Counterparts source axis target index) :
    ∃ s t, source[axis]? = some s ∧ target[index]? = some t ∧ s.alike t = true := by
  obtain ⟨t, ht, s, hs, halike, _⟩ := h
  exact ⟨s, t, hs, ht, halike⟩

/-- On numbered sides counterparts pair up: anonymous ones have the same ordinal. -/
lemma exists_pairs (hsource : source.Numbered) (htarget : target.Numbered)
    (h : Counterparts source axis target index) :
    ∃ s t, source[axis]? = some s ∧ target[index]? = some t ∧ s.pairs t = true := by
  obtain ⟨t, ht, s, hs, halike, hrank⟩ := h
  refine ⟨s, t, hs, ht, ?_⟩
  cases hanon : t.isAnonymous with
  | false => exact Slot.pairs_of_alike halike hanon
  | true =>
    obtain ⟨ordinal, rfl⟩ := Slot.isAnonymous_iff.1 hanon
    rw [Slot.alike_anonymous] at halike
    obtain ⟨ordinal', rfl⟩ := Slot.isAnonymous_iff.1 halike
    rw [Slots.occurrences_anonymous, Slots.occurrences_anonymous,
      ← hsource.eq_anonymousCount_take hs, ← htarget.eq_anonymousCount_take ht] at hrank
    rw [hrank]
    exact Slot.pairs_self _

end Counterparts

/-! ## Taking -/

/-- The positions in `taken` are those given to the slots `before`: of each kind the first ones, as
many as there are such slots. -/
def TakenFor (source before : Slots) (taken : List Nat) : Prop :=
  ∀ position s, source[position]? = some s →
    (position ∈ taken ↔ Slots.occurrences (source.take position) s < before.occurrences s)

/-- No position is taken before there are slots to take it for. -/
lemma takenFor_nil : TakenFor source [] [] := by
  intro position s _
  simp [Slots.occurrences]

/-- Of the slots of one kind the first ones are taken, as many as there were slots of that kind. -/
lemma TakenFor.mem_iff {before : Slots} {s slot : Slot} {position : Nat}
    (h : TakenFor source before taken) (hs : source[position]? = some s)
    (halike : s.alike slot = true) :
    position ∈ taken ↔
      Slots.occurrences (source.take position) slot < before.occurrences slot := by
  rw [h position s hs, Slots.occurrences_congr halike, Slots.occurrences_congr halike]

/-- What is passed over on the way to the first free position is taken or of another kind. -/
lemma mem_of_lt_firstFree? {slot s : Slot} {position earlier : Nat}
    (h : firstFree? source taken slot = some position) (hlt : earlier < position)
    (hs : source[earlier]? = some s) (hpairs : s.pairs slot = true) : earlier ∈ taken := by
  unfold firstFree? at h
  obtain ⟨⟨s', _⟩, hfind, rfl⟩ := Option.map_eq_some_iff.1 h
  obtain ⟨_, i, _, hget, hbefore⟩ := List.find?_eq_some_iff_getElem.1 hfind
  rw [List.getElem_zipIdx, Nat.zero_add] at hget
  obtain ⟨rfl, rfl⟩ := Prod.mk.inj hget
  obtain ⟨_, rfl⟩ := List.getElem?_eq_some_iff.1 hs
  have hpassed := hbefore earlier hlt
  rw [List.getElem_zipIdx, Nat.zero_add] at hpassed
  simpa [hpairs] using hpassed

/-- Where no position is free, all of the kind are taken. -/
lemma mem_of_firstFree?_eq_none {slot s : Slot} {position : Nat}
    (h : firstFree? source taken slot = none) (hs : source[position]? = some s)
    (hpairs : s.pairs slot = true) : position ∈ taken := by
  unfold firstFree? at h
  rw [Option.map_eq_none_iff, List.find?_eq_none] at h
  have hnot := h (s, position) (List.mk_mem_zipIdx_iff_getElem?.2 hs)
  simpa [hpairs] using hnot

/-- A slot with a name comes from the first position that pairs up with it and is not taken. -/
lemma origin?_of_isAnonymous_eq_false {slot : Slot} (h : slot.isAnonymous = false) :
    origin? source taken slot = firstFree? source taken slot := by
  cases slot with
  | anonymous _ => cases h
  | expr _ => rfl
  | inferred => rfl

variable {before : Slots} {slot : Slot} {position : Nat}

/-- A slot gets its counterpart: the one like it that has as many others before it. -/
lemma holdsNth_of_origin? (htaken : TakenFor source before taken)
    (hordinal : ∀ ordinal, slot = .anonymous ordinal → ordinal = before.anonymousCount)
    (h : origin? source taken slot = some position) :
    source.HoldsNth slot (before.occurrences slot) position := by
  cases hanon : slot.isAnonymous with
  | true =>
    obtain ⟨ordinal, rfl⟩ := Slot.isAnonymous_iff.1 hanon
    rw [Slots.occurrences_anonymous, ← hordinal ordinal rfl]
    exact (Slots.anonymousPosition?_eq_some_iff_holdsNth ordinal).1 h
  | false =>
    rw [origin?_of_isAnonymous_eq_false hanon] at h
    obtain ⟨hnot, s, hs, hpairs⟩ := getElem?_of_firstFree? h
    have halike : s.alike slot = true := Slot.alike_of_pairs hpairs
    rw [htaken.mem_iff hs halike, not_lt] at hnot
    refine ⟨s, hs, halike, hnot.antisymm' (not_lt.1 fun hmore => ?_)⟩
    -- the next one in order would stand further left, and would be free
    obtain ⟨earlier, hnth⟩ := Slots.exists_holdsNth hmore
    obtain ⟨hlt, s', hs', halike', hrank⟩ := hnth.of_take
    have hmem := mem_of_lt_firstFree? h hlt hs' (Slot.pairs_of_alike halike' hanon)
    rw [htaken.mem_iff hs' halike', hrank] at hmem
    exact lt_irrefl _ hmem

/-- A slot finds no place only when the source has no more slots like it than stand before it. -/
lemma occurrences_le_of_origin?_eq_none (htaken : TakenFor source before taken)
    (hordinal : ∀ ordinal, slot = .anonymous ordinal → ordinal = before.anonymousCount)
    (h : origin? source taken slot = none) :
    source.occurrences slot ≤ before.occurrences slot := by
  by_contra hmore
  obtain ⟨position, hnth⟩ := Slots.exists_holdsNth (not_le.1 hmore)
  cases hanon : slot.isAnonymous with
  | true =>
    obtain ⟨ordinal, rfl⟩ := Slot.isAnonymous_iff.1 hanon
    rw [Slots.occurrences_anonymous, ← hordinal ordinal rfl] at hnth
    rw [origin?, (Slots.anonymousPosition?_eq_some_iff_holdsNth ordinal).2 hnth] at h
    cases h
  | false =>
    rw [origin?_of_isAnonymous_eq_false hanon] at h
    obtain ⟨s, hs, halike, hrank⟩ := hnth
    have hmem := mem_of_firstFree?_eq_none h hs (Slot.pairs_of_alike halike hanon)
    rw [htaken.mem_iff hs halike, hrank] at hmem
    exact lt_irrefl _ hmem

/-- With one more slot its counterpart is taken. -/
lemma TakenFor.cons (htaken : TakenFor source before taken)
    (hnth : source.HoldsNth slot (before.occurrences slot) position) :
    TakenFor source (before ++ [slot]) (position :: taken) := by
  intro q s hs
  rw [List.mem_cons, htaken q s hs, Slots.occurrences_concat]
  obtain ⟨t, ht, halike, hrank⟩ := id hnth
  by_cases hslot : slot.alike s = true
  · rw [if_pos hslot, ← Slots.occurrences_congr hslot, ← Slots.occurrences_congr hslot]
    -- of the slots of this kind the next one in order is taken
    have hq : q = position ↔
        Slots.occurrences (source.take q) slot = before.occurrences slot := by
      constructor
      · rintro rfl
        exact hrank
      · exact fun hsame => Slots.HoldsNth.unique ⟨s, hs, s.alike_comm slot ▸ hslot, hsame⟩ hnth
    rw [hq]
    omega
  · rw [if_neg hslot, Nat.add_zero]
    constructor
    · rintro (rfl | hlt)
      · obtain rfl : s = t := Option.some.inj (hs.symm.trans ht)
        exact absurd (s.alike_comm slot ▸ halike) hslot
      · exact hlt
    · exact .inr

/-! ## Surplus -/

/-- With the slot at `index` the target has more slots like it than the source has. -/
def Surplus (source target : Slots) (index : Nat) : Prop :=
  ∃ slot, target[index]? = some slot ∧
    source.occurrences slot < Slots.occurrences (target.take (index + 1)) slot

/-- The slot at `index` is the first one that the source has not enough of. -/
def FirstSurplus (source target : Slots) (index : Nat) : Prop :=
  Surplus source target index ∧ ∀ earlier < index, ¬Surplus source target earlier

/-- A slot is one too many if the slots in front of it use up all that the source has of its kind.
-/
lemma surplus_iff {rest : Slots} :
    Surplus source (before ++ slot :: rest) before.length ↔
      source.occurrences slot ≤ before.occurrences slot := by
  have hslot : (before ++ slot :: rest)[before.length]? = some slot := by
    rw [List.getElem?_append_right le_rfl, Nat.sub_self]
    rfl
  have htake : (before ++ slot :: rest).take (before.length + 1) = before ++ [slot] := by
    rw [List.append_cons, List.take_left' (by simp)]
  have hcount : Slots.occurrences (before ++ [slot]) slot = before.occurrences slot + 1 := by
    rw [Slots.occurrences_concat, if_pos slot.alike_self]
  unfold Surplus
  rw [hslot, htake]
  constructor
  · rintro ⟨_, heq, hlt⟩
    obtain rfl := Option.some.inj heq
    omega
  · exact fun hle => ⟨slot, rfl, by omega⟩

/-- The induction is on the slots of the target that are left, behind those in `before`, which have
found their counterparts already. -/
lemma meets_origins_counterparts {whole rest : Slots} (hwhole : before ++ rest = whole)
    (hnum : whole.Numbered) (htaken : TakenFor source before taken)
    (hnone : ∀ earlier < before.length, ¬Surplus source whole earlier) :
    Meets (origins spec source taken rest)
      (fun axes => axes.length = rest.length ∧ ∀ index axis, axes[index]? = some axis →
        Counterparts source axis whole (before.length + index))
      (fun e => ∃ index slot, whole[index]? = some slot ∧ FirstSurplus source whole index ∧
        e = ⟨spec, .unmatched slot.text⟩) := by
  induction rest generalizing before taken with
  | nil => exact ⟨rfl, fun index axis h => by cases h⟩
  | cons slot rest ih =>
    have hordinal : ∀ ordinal, slot = .anonymous ordinal → ordinal = before.anonymousCount := by
      rintro ordinal rfl
      exact Slots.Numbered.eq_anonymousCount (hwhole ▸ hnum)
    have hslot : whole[before.length]? = some slot := by
      rw [← hwhole, List.getElem?_append_right le_rfl, Nat.sub_self]
      rfl
    simp only [origins]
    split
    · rename_i position hposition
      -- the slot has an origin: it is the counterpart, and one more position is taken
      have hnth := holdsNth_of_origin? htaken hordinal hposition
      have hcounterpart : Counterparts source position whole before.length := by
        refine ⟨slot, hslot, ?_⟩
        rw [← hwhole, List.take_left]
        exact hnth
      have hnone' : ∀ earlier < (before ++ [slot]).length, ¬Surplus source whole earlier := by
        intro earlier hearlier
        rw [List.length_append, List.length_singleton] at hearlier
        rcases Nat.lt_succ_iff_lt_or_eq.1 hearlier with hlt | rfl
        · exact hnone earlier hlt
        · rw [← hwhole, surplus_iff, not_le]
          exact hnth.lt_occurrences
      have hwhole' : (before ++ [slot]) ++ rest = whole := by
        rw [← List.append_cons, hwhole]
      refine (ih hwhole' (htaken.cons hnth) hnone').bind fun axes haxes => ?_
      refine ⟨congrArg Nat.succ haxes.1, fun index axis haxis => ?_⟩
      cases index with
      | zero =>
        obtain rfl := Option.some.inj haxis
        exact hcounterpart
      | succ index =>
        have hrest := haxes.2 index axis haxis
        rw [List.length_append, List.length_singleton, Nat.add_assoc, Nat.add_comm 1] at hrest
        exact hrest
    · rename_i horigin
      -- there is no origin: all slots of its kind are used up, and so for the first time
      have hle := occurrences_le_of_origin?_eq_none htaken hordinal horigin
      refine ⟨before.length, slot, hslot, ⟨?_, hnone⟩, rfl⟩
      rw [← hwhole]
      exact surplus_iff.2 hle

/-! ## Arrangements -/

/-- Every slot of the target comes from its counterpart, and there are no other slots in the
source. -/
structure Arranges (source target : Slots) (axes : List Nat) : Prop where
  length_source : source.length = target.length
  length_axes : axes.length = target.length
  counterparts : ∀ index axis, axes[index]? = some axis → Counterparts source axis target index

namespace Arranges

/-- The axis that an arrangement names is the counterpart, and the only one. -/
lemma getElem?_iff (h : Arranges source target axes) {index axis : Nat} :
    axes[index]? = some axis ↔ Counterparts source axis target index := by
  refine ⟨h.counterparts index axis, fun hcounter => ?_⟩
  obtain ⟨s, t, hs, ht, _⟩ := hcounter.exists_alike
  have hlt : index < axes.length := by
    rw [h.length_axes]
    exact (List.getElem?_eq_some_iff.1 ht).1
  have hget := List.getElem?_eq_getElem hlt
  rw [hget, (h.counterparts index _ hget).unique hcounter]

/-- There is one arrangement at most. -/
lemma eq {axes' : List Nat} (h : Arranges source target axes) (h' : Arranges source target axes') :
    axes = axes' := by
  refine List.ext_getElem? fun index => Option.ext fun axis => ?_
  rw [h.getElem?_iff, h'.getElem?_iff]

/-- The axes are those of the source, in another order. -/
lemma perm_range (h : Arranges source target axes) : axes.Perm (List.range source.length) := by
  refine perm_range_of_nodup (h.length_axes.trans h.length_source.symm) ?_ ?_
  · intro axis haxis
    obtain ⟨index, hindex⟩ := List.mem_iff_getElem?.1 haxis
    obtain ⟨s, t, hs, _⟩ := (h.counterparts index axis hindex).exists_alike
    exact (List.getElem?_eq_some_iff.1 hs).1
  · rw [List.nodup_iff_injective_getElem]
    intro i j hij
    have hi := h.counterparts i _ (List.getElem?_eq_getElem i.isLt)
    have hj := h.counterparts j _ (List.getElem?_eq_getElem j.isLt)
    dsimp only at hij
    rw [hij] at hi
    exact Fin.ext (hi.symm.unique hj.symm)

/-- Where there is an arrangement the target is a rearrangement of the source. -/
lemma rearranges (h : Arranges source target axes) : source.Rearranges target := by
  obtain ⟨arranged, harranged⟩ := exists_forall₂_getElem? h.perm_range
  have hlen : arranged.length = target.length := harranged.length_eq.symm.trans h.length_axes
  refine ⟨arranged, perm_of_forall₂_getElem? h.perm_range harranged, ?_⟩
  rw [List.forall₂_iff_get]
  refine ⟨hlen, fun index hs ht => ?_⟩
  have haxis := List.getElem?_eq_getElem (harranged.length_eq ▸ hs)
  obtain ⟨s, t, hsource, htarget, halike⟩ := (h.counterparts index _ haxis).exists_alike
  have hsame := rel_of_getElem? harranged haxis (List.getElem?_eq_getElem hs)
  rw [hsource, Option.some.injEq] at hsame
  rw [List.getElem?_eq_getElem ht, Option.some.injEq] at htarget
  rw [List.get_eq_getElem, List.get_eq_getElem, ← hsame, htarget]
  exact halike

end Arranges

/-! ## Permutations -/

/-- What a permutation is refused for: different numbers of anonymous slots, or else different
numbers of slots, or else the first slot of the target that the source has not enough of. -/
def RefusedFor (spec : String) (source target : Slots) (fault : Fault ShapeError) : Prop :=
  if source.anonymousCount ≠ target.anonymousCount then
    fault = .refusal (placeholderError spec source target)
  else if source.length ≠ target.length then
    fault = .refusal ⟨spec, .mismatch (.slotCount source.length source.text target.length
      target.text)⟩
  else
    ∃ index slot, target[index]? = some slot ∧ FirstSurplus source target index ∧
      fault = .refusal ⟨spec, .unmatched slot.text⟩

/-- There is nothing to refuse in a rearrangement. -/
lemma not_refusedFor (h : source.Rearranges target) (fault : Fault ShapeError) :
    ¬RefusedFor spec source target fault := by
  unfold RefusedFor
  rw [if_neg (not_not.2 h.anonymousCount_eq), if_neg (not_not.2 h.length_eq)]
  rintro ⟨_, _, _, ⟨⟨slot, _, hmore⟩, _⟩, _⟩
  rw [h.occurrences_eq slot] at hmore
  exact absurd (Slots.occurrences_take_le target slot _) (not_le.2 hmore)

/-- How a permutation ends. -/
theorem meets_permute_arranges (hnum : target.Numbered) :
    Meets (permute spec source target) (Arranges source target)
      (RefusedFor spec source target) := by
  unfold permute RefusedFor
  split
  · rfl
  · split
    · rfl
    · rename_i hlen
      have horigins : Meets (origins spec source [] target) _ _ :=
        meets_origins_counterparts (List.nil_append target) hnum takenFor_nil
          fun earlier hearlier => absurd hearlier (Nat.not_lt_zero earlier)
      refine Meets.ofExcept (horigins.imp (fun axes haxes => ?_) fun e he => ?_)
      · refine ⟨not_not.1 hlen, haxes.1, fun index axis haxis => ?_⟩
        have hcounter := haxes.2 index axis haxis
        rwa [List.length_nil, Nat.zero_add] at hcounter
      · obtain ⟨index, slot, hslot, hfirst, rfl⟩ := he
        exact ⟨index, slot, hslot, hfirst, rfl⟩

/-- A permutation lists the counterparts of the slots of its target. -/
theorem permute_eq_ok_iff (hnum : target.Numbered) :
    permute spec source target = .ok axes ↔ Arranges source target axes := by
  have hmeets : Meets (permute spec source target) _ _ := meets_permute_arranges hnum
  constructor
  · exact hmeets.post_of_eq_ok
  · intro h
    cases hpermute : permute spec source target with
    | ok axes' => rw [h.eq (hmeets.post_of_eq_ok hpermute)]
    | error fault => exact absurd (hmeets.bad_of_eq_error hpermute) (not_refusedFor h.rearranges _)

/-- A permutation is found if and only if the target is a rearrangement of the source. -/
lemma exists_permute_eq_ok_iff (hnum : target.Numbered) :
    (∃ axes, permute spec source target = .ok axes) ↔ source.Rearranges target := by
  constructor
  · rintro ⟨axes, haxes⟩
    exact ((permute_eq_ok_iff hnum).1 haxes).rearranges
  · intro h
    cases hpermute : permute spec source target with
    | ok axes => exact ⟨axes, rfl⟩
    | error fault =>
      have hbad := (meets_permute_arranges hnum).bad_of_eq_error hpermute
      exact absurd hbad (not_refusedFor h fault)

/-- A permutation is resolved exactly when the target has the slots of the source in another order.
Then it lists the axes of the source in the order in which the slots of the target pair up with
them.  Otherwise it is refused for the anonymous slots, or else for the number of slots, or else
for the first slot that the source has not enough of. -/
theorem permute_decides_rearrangement (spec : String) (hsource : source.Written)
    (htarget : target.Written) :
    ((∃ axes, permute spec source target = .ok axes) ↔ source.Rearranges target) ∧
      (∀ axes, permute spec source target = .ok axes →
        axes.Perm (List.range source.length) ∧
          List.Forall₂ (fun slot axis => ∃ s, source[axis]? = some s ∧ s.pairs slot = true)
            target axes) ∧
      ∀ fault, permute spec source target = .error fault → RefusedFor spec source target fault := by
  refine ⟨exists_permute_eq_ok_iff htarget.numbered, fun axes haxes => ?_, fun fault hfault => ?_⟩
  · have harranges := (permute_eq_ok_iff htarget.numbered).1 haxes
    refine ⟨harranges.perm_range, List.forall₂_iff_get.2 ⟨harranges.length_axes.symm, ?_⟩⟩
    intro index ht haxis
    have hcounter := harranges.counterparts index _ (List.getElem?_eq_getElem haxis)
    obtain ⟨s, t, hs, htarget', hpairs⟩ :=
      hcounter.exists_pairs hsource.numbered htarget.numbered
    rw [List.getElem?_eq_getElem ht, Option.some.injEq] at htarget'
    rw [List.get_eq_getElem, List.get_eq_getElem, htarget']
    exact ⟨s, hs, hpairs⟩
  · exact (meets_permute_arranges htarget.numbered).bad_of_eq_error hfault

/-- A size that stands twice is found twice, and a third time it is refused. -/
theorem permute_decides_rearrangement_repeated_size :
    let source : Slots := [.expr (.lit 2), .anonymous 0, .expr (.lit 3), .expr (.lit 2)]
    let arranged : Slots := [.expr (.lit 2), .expr (.lit 3), .expr (.lit 2), .anonymous 0]
    let exhausted : Slots := [.expr (.lit 2), .anonymous 0, .expr (.lit 2), .expr (.lit 2)]
    source.Written ∧ arranged.Written ∧ exhausted.Written ∧
      permute "2_32 -> 232_" source arranged = .ok [0, 2, 3, 1] ∧ source.Rearranges arranged ∧
      ¬source.Rearranges exhausted ∧
      RefusedFor "2_32 -> 2_22" source exhausted (.refusal ⟨"2_32 -> 2_22", .unmatched "2"⟩) := by
  intro source arranged exhausted
  have hsource : source.Written := ⟨{}, .size, "2_32", ['2', '_', '3', '2'], by rfl⟩
  have harranged : arranged.Written := ⟨{}, .size, "232_", ['2', '3', '2', '_'], by rfl⟩
  have hexhausted : exhausted.Written := ⟨{}, .size, "2_22", ['2', '_', '2', '2'], by rfl⟩
  have hpermute : permute "2_32 -> 232_" source arranged = .ok [0, 2, 3, 1] := by rfl
  have hrefused : permute "2_32 -> 2_22" source exhausted =
      .error (.refusal ⟨"2_32 -> 2_22", .unmatched "2"⟩) := by rfl
  obtain ⟨hiff, -, -⟩ := permute_decides_rearrangement "2_32 -> 232_" hsource harranged
  obtain ⟨hiff', -, hfault⟩ := permute_decides_rearrangement "2_32 -> 2_22" hsource hexhausted
  refine ⟨hsource, harranged, hexhausted, hpermute, hiff.1 ⟨_, hpermute⟩, fun h => ?_,
    hfault _ hrefused⟩
  obtain ⟨axes, haxes⟩ := hiff'.2 h
  rw [hrefused] at haxes
  cases haxes

end Resolve

end ShapeAlgebra
