import Mathlib.Data.List.Sort
import Mathlib.Order.Fin.Basic
import ShapeAlgebra.Proofs.Resolve.Reduce
import ShapeAlgebra.Proofs.Slot.Alike

/-!
# Reductions as embeddings

A reduction looks for every slot of its target from where the slot before it was found, and never
goes back.  Still it finds places for all of them whenever that can be done in order.  The reason is
that nothing is lost by taking the first place: if the target fits in order, its first slot at any
place, then what follows that slot fits behind the first place as well.  An anonymous slot is looked
up by its ordinal and not searched for, but on a side that was read no other slot pairs up with it,
so the lookup is a search too.  So a reduction walks along its source: an axis that pairs up with
the next slot of the target is kept, and any other is passed over.
-/

namespace ShapeAlgebra

namespace Slots

/-! ## Embeddings -/

/-- The slots of `target` pair up with slots of `source` in the same order. -/
def Embeds (target source : Slots) : Prop :=
  ∃ place : Fin target.length → Fin source.length,
    StrictMono place ∧ ∀ i, (source.get (place i)).pairs (target.get i) = true

variable {source target : Slots} {s slot : Slot}

/-- The slots that an embedding goes to are a sublist. -/
lemma embeds_iff_sublistForall₂ :
    target.Embeds source ↔
      List.SublistForall₂ (fun slot s => Slot.pairs s slot = true) target source := by
  rw [List.sublistForall₂_iff]
  constructor
  · rintro ⟨place, hmono, hpairs⟩
    have hascend : ((List.finRange target.length).map place).Pairwise (· < ·) :=
      List.pairwise_map.2 ((List.pairwise_lt_finRange _).imp fun hlt => hmono hlt)
    refine ⟨_, ?_, List.map_getElem_sublist hascend⟩
    refine List.forall₂_iff_get.2 ⟨by simp, fun i hi _ => ?_⟩
    simpa using hpairs ⟨i, hi⟩
  · rintro ⟨image, hpairs, hsub⟩
    obtain ⟨places, rfl, hascend⟩ := List.sublist_eq_map_getElem hsub
    rw [List.forall₂_map_right_iff] at hpairs
    have hlen : target.length = places.length := hpairs.length_eq
    refine ⟨fun i => places[i.cast hlen], fun i j hij => ?_, fun i => ?_⟩
    · exact List.pairwise_iff_getElem.1 hascend _ _ _ _ hij
    · exact hpairs.get i.2 (i.cast hlen).2

@[simp]
lemma embeds_nil : Embeds [] source := embeds_iff_sublistForall₂.2 .nil

@[simp]
lemma not_embeds_cons_nil : ¬Embeds (slot :: target) [] := by
  rw [embeds_iff_sublistForall₂]
  rintro ⟨⟩

/-- Nothing is lost by taking the first place. -/
lemma embeds_cons_cons_of_pairs (h : s.pairs slot = true) :
    Embeds (slot :: target) (s :: source) ↔ target.Embeds source := by
  rw [embeds_iff_sublistForall₂, embeds_iff_sublistForall₂, List.sublistForall₂_iff,
    List.sublistForall₂_iff]
  constructor
  · rintro ⟨image, hpairs, hsub⟩
    -- wherever `slot` went, the rest of its image stands behind the first axis
    obtain ⟨s', rest, -, hrest, rfl⟩ := List.forall₂_cons_left_iff.1 hpairs
    exact ⟨rest, hrest, hsub.tail⟩
  · rintro ⟨image, hpairs, hsub⟩
    exact ⟨s :: image, .cons h hpairs, hsub.cons_cons s⟩

/-- An axis that does not pair up with the first slot is of no use. -/
lemma embeds_cons_cons_of_not_pairs (h : s.pairs slot = false) :
    Embeds (slot :: target) (s :: source) ↔ Embeds (slot :: target) source := by
  rw [embeds_iff_sublistForall₂, embeds_iff_sublistForall₂]
  constructor
  · intro hsub
    cases hsub with
    | cons hpairs _ =>
      rw [h] at hpairs
      cases hpairs
    | cons_right hsub => exact hsub
  · exact .cons_right

end Slots

namespace Resolve

variable {spec : String} {source target rest : Slots} {next : Nat} {s slot : Slot}

/-! ## Walking along the source -/

/-- A slot with a name is kept by the first slot from a position on that pairs up with it. -/
lemma keeper?_of_isAnonymous_eq_false (h : slot.isAnonymous = false) :
    keeper? source next slot = firstFrom? source next slot := by
  cases slot with
  | anonymous _ => cases h
  | expr _ => rfl
  | inferred => rfl

/-- The first of the elements from a position on stands at that position. -/
lemma getElem?_of_drop_eq_cons (h : source.drop next = s :: rest) :
    source[next]? = some s ∧ source.drop (next + 1) = rest := by
  constructor
  · rw [← List.head?_drop, h]
    rfl
  · rw [← List.tail_drop, h]
    rfl

/-- The elements from a position on are numbered from that position. -/
lemma drop_zipIdx (hs : source[next]? = some s) :
    source.zipIdx.drop next = (s, next) :: source.zipIdx.drop (next + 1) := by
  obtain ⟨hlt, rfl⟩ := List.getElem?_eq_some_iff.1 hs
  have hlt' : next < source.zipIdx.length := by rwa [List.length_zipIdx]
  rw [List.drop_eq_getElem_cons hlt', List.getElem_zipIdx, Nat.zero_add]

/-- An axis that pairs up is kept. -/
lemma keeper?_of_pairs (hnum : source.Numbered) (hs : source[next]? = some s)
    (h : s.pairs slot = true) : keeper? source next slot = some next := by
  cases hanon : slot.isAnonymous with
  | false =>
    rw [keeper?_of_isAnonymous_eq_false hanon]
    simp [firstFrom?, drop_zipIdx hs, h]
  | true =>
    obtain ⟨ordinal, rfl⟩ := Slot.isAnonymous_iff.1 hanon
    obtain rfl := Slot.pairs_anonymous_iff.1 h
    rw [keeper?, hnum.anonymousPosition?_eq_some_iff.2 hs]
    simp

/-- An axis that does not pair up is passed over. -/
lemma keeper?_of_not_pairs (hnum : source.Numbered) (hs : source[next]? = some s)
    (h : s.pairs slot = false) : keeper? source next slot = keeper? source (next + 1) slot := by
  cases hanon : slot.isAnonymous with
  | false =>
    rw [keeper?_of_isAnonymous_eq_false hanon, keeper?_of_isAnonymous_eq_false hanon]
    simp [firstFrom?, drop_zipIdx hs, h]
  | true =>
    obtain ⟨ordinal, rfl⟩ := Slot.isAnonymous_iff.1 hanon
    cases hposition : source.anonymousPosition? ordinal with
    | none => simp only [keeper?, hposition, Option.filter]
    | some position =>
      -- the slot itself stands where its ordinal is looked up, so that is not at `next`
      have hne : position ≠ next := by
        rintro rfl
        rw [hnum.anonymousPosition?_eq_some_iff, hs, Option.some.injEq] at hposition
        rw [hposition, Slot.pairs_self] at h
        cases h
      have hle : next ≤ position ↔ next + 1 ≤ position := by omega
      simp only [keeper?, hposition, Option.filter, hle]

/-- Behind the source nothing is kept. -/
lemma keeper?_of_length_le (h : source.length ≤ next) : keeper? source next slot = none := by
  refine Option.eq_none_iff_forall_ne_some.2 fun position hposition => ?_
  obtain ⟨hle, hcomes⟩ := comesFrom_of_keeper? hposition
  exact absurd hcomes.lt_length (not_lt.2 (h.trans hle))

/-- A slot of the source that pairs up with the first one of the target is kept. -/
lemma keptAxes_of_pairs (hnum : source.Numbered) (hs : source[next]? = some s)
    (h : s.pairs slot = true) :
    keptAxes spec source next (slot :: target) =
      (keptAxes spec source (next + 1) target).map (next :: ·) := by
  simp only [keptAxes, keeper?_of_pairs hnum hs h]
  rfl

/-- A slot of the source that does not pair up with the first one of the target is passed over. -/
lemma keptAxes_of_not_pairs (hnum : source.Numbered) (hs : source[next]? = some s)
    (h : s.pairs slot = false) :
    keptAxes spec source next (slot :: target) =
      keptAxes spec source (next + 1) (slot :: target) := by
  simp only [keptAxes, keeper?_of_not_pairs hnum hs h]

/-- When the source is used up, the slot that is due is refused. -/
lemma keptAxes_of_length_le (h : source.length ≤ next) :
    keptAxes spec source next (slot :: target) = .error ⟨spec, .reduction slot.text⟩ := by
  simp only [keptAxes, keeper?_of_length_le h]

/-! ## Success and failure -/

/-- With the slot at `index` the slots of `target` no longer embed, and with any slot before it they
do. -/
def FirstMisfit (source target : Slots) (index : Nat) : Prop :=
  ¬Slots.Embeds (target.take (index + 1)) source ∧
    ∀ earlier < index, Slots.Embeds (target.take (earlier + 1)) source

/-- An empty source does not even have the first slot. -/
lemma firstMisfit_nil : FirstMisfit [] (slot :: target) 0 :=
  ⟨Slots.not_embeds_cons_nil, fun _ h => absurd h (Nat.not_lt_zero _)⟩

/-- Slots that pair up in front move the first misfit by one place. -/
lemma FirstMisfit.cons_of_pairs {index : Nat} (h : s.pairs slot = true)
    (hmisfit : FirstMisfit rest target index) :
    FirstMisfit (s :: rest) (slot :: target) (index + 1) := by
  refine ⟨?_, fun earlier hearlier => ?_⟩
  · rw [List.take_succ_cons, Slots.embeds_cons_cons_of_pairs h]
    exact hmisfit.1
  · rw [List.take_succ_cons, Slots.embeds_cons_cons_of_pairs h]
    cases earlier with
    | zero => exact Slots.embeds_nil
    | succ earlier => exact hmisfit.2 earlier (Nat.lt_of_succ_lt_succ hearlier)

/-- A slot of the source that does not pair up changes nothing in which slot is the first misfit. -/
lemma FirstMisfit.cons_of_not_pairs {index : Nat} (h : s.pairs slot = false)
    (hmisfit : FirstMisfit rest (slot :: target) index) :
    FirstMisfit (s :: rest) (slot :: target) index := by
  refine ⟨?_, fun earlier hearlier => ?_⟩
  · rw [List.take_succ_cons, Slots.embeds_cons_cons_of_not_pairs h]
    exact hmisfit.1
  · rw [List.take_succ_cons, Slots.embeds_cons_cons_of_not_pairs h]
    exact hmisfit.2 earlier hearlier

/-- A target that embeds has no misfit. -/
lemma FirstMisfit.not_embeds {index : Nat} (h : FirstMisfit source target index) :
    ¬target.Embeds source := by
  intro hembeds
  rw [Slots.embeds_iff_sublistForall₂, List.sublistForall₂_iff] at hembeds
  obtain ⟨image, hpairs, hsub⟩ := hembeds
  refine h.1 (Slots.embeds_iff_sublistForall₂.2 (List.sublistForall₂_iff.2 ?_))
  exact ⟨_, List.forall₂_take _ hpairs, (List.take_sublist _ image).trans hsub⟩

/-- The induction is on the slots of the source that are still to be walked along. -/
lemma meets_keptAxes_embeds (hnum : source.Numbered) (hrest : source.drop next = rest) :
    Meets (keptAxes spec source next target) (fun _ => target.Embeds rest)
      (fun e => ∃ index slot, target[index]? = some slot ∧ FirstMisfit rest target index ∧
        e = ⟨spec, .reduction slot.text⟩) := by
  induction rest generalizing next target with
  | nil =>
    cases target with
    | nil => exact Slots.embeds_nil
    | cons slot target =>
      rw [keptAxes_of_length_le (List.drop_eq_nil_iff.1 hrest)]
      exact ⟨0, slot, rfl, firstMisfit_nil, rfl⟩
  | cons s rest ih =>
    obtain ⟨hs, hrest'⟩ := getElem?_of_drop_eq_cons hrest
    cases target with
    | nil => exact Slots.embeds_nil
    | cons slot target =>
      cases hpairs : s.pairs slot with
      | true =>
        rw [keptAxes_of_pairs hnum hs hpairs]
        refine ((ih hrest').imp (fun _ hembeds => ?_) fun e he => ?_).map
        · exact (Slots.embeds_cons_cons_of_pairs hpairs).2 hembeds
        · obtain ⟨index, slot', hslot', hmisfit, rfl⟩ := he
          exact ⟨index + 1, slot', hslot', hmisfit.cons_of_pairs hpairs, rfl⟩
      | false =>
        rw [keptAxes_of_not_pairs hnum hs hpairs]
        refine (ih hrest').imp (fun _ hembeds => ?_) fun e he => ?_
        · exact (Slots.embeds_cons_cons_of_not_pairs hpairs).2 hembeds
        · obtain ⟨index, slot', hslot', hmisfit, rfl⟩ := he
          exact ⟨index, slot', hslot', hmisfit.cons_of_not_pairs hpairs, rfl⟩

/-- How a reduction ends. -/
theorem meets_reducedAxes_embeds (hnum : source.Numbered) :
    Meets (reducedAxes spec source target) (fun _ => target.Embeds source)
      (fun fault => ∃ index slot, target[index]? = some slot ∧
        FirstMisfit source target index ∧ fault = .refusal ⟨spec, .reduction slot.text⟩) := by
  have hkept : Meets (keptAxes spec source 0 target) _ _ :=
    meets_keptAxes_embeds hnum List.drop_zero
  refine (Meets.ofExcept (hkept.imp (fun _ h => h) fun e he => ?_)).bind fun kept h => h
  obtain ⟨index, slot, hslot, hmisfit, rfl⟩ := he
  exact ⟨index, slot, hslot, hmisfit, rfl⟩

/-- A reduction is found if and only if the target embeds into the source. -/
lemma exists_reducedAxes_eq_ok_iff (hnum : source.Numbered) :
    (∃ axes, reducedAxes spec source target = .ok axes) ↔ target.Embeds source := by
  have hmeets : Meets (reducedAxes spec source target) _ _ := meets_reducedAxes_embeds hnum
  constructor
  · rintro ⟨axes, haxes⟩
    exact hmeets.post_of_eq_ok haxes
  · intro h
    cases hreduce : reducedAxes spec source target with
    | ok axes => exact ⟨axes, rfl⟩
    | error fault =>
      obtain ⟨_, _, _, hmisfit, _⟩ := hmeets.bad_of_eq_error hreduce
      exact absurd h hmisfit.not_embeds

/-! ## What is left -/

section

variable {α : Type} {l : List α} {kept : List Nat}

/-- The elements of `l` at the positions that are not in `axes`. -/
def withoutAxes (axes : List Nat) (l : List α) : List α :=
  (l.zipIdx.filter fun (_, i) => !axes.contains i).map Prod.fst

/-- An element at a position that is not dropped is left. -/
lemma mem_withoutAxes {axes : List Nat} {a : α} {i : Nat} (ha : l[i]? = some a) (hi : i ∉ axes) :
    a ∈ withoutAxes axes l := by
  refine List.mem_map.2 ⟨(a, i), List.mem_filter.2 ⟨List.mk_mem_zipIdx_iff_getElem?.2 ha, ?_⟩, rfl⟩
  simpa using hi

/-- Without the axes that are not kept, what is left are the elements that are kept. -/
lemma forall₂_withoutAxes (hascend : kept.Pairwise (· < ·)) (hlt : ∀ i ∈ kept, i < l.length) :
    List.Forall₂ (fun a i => l[i]? = some a)
      (withoutAxes ((List.range l.length).filter fun i => !kept.contains i) l) kept := by
  -- to leave out what is not kept is to take what is kept
  have hfilter : (l.zipIdx.filter fun (_, i) =>
      !((List.range l.length).filter fun i => !kept.contains i).contains i) =
        l.zipIdx.filter ((kept.contains ·) ∘ Prod.snd) := by
    refine List.filter_congr fun p hp => ?_
    have hi := (List.getElem?_eq_some_iff.1 (List.mem_zipIdx_iff_getElem?.1 hp)).1
    rw [Bool.eq_iff_iff]
    simp [hi]
  -- two ascending lists of the same positions are one
  have hpositions : (l.zipIdx.filter ((kept.contains ·) ∘ Prod.snd)).map Prod.snd = kept := by
    rw [← List.filter_map, List.zipIdx_map_snd]
    have hrange : (List.range' 0 l.length).Pairwise (· < ·) := List.pairwise_lt_range'
    refine (hrange.filter _).eq_of_mem_iff hascend fun i => ?_
    have hmem : i ∈ kept → i < l.length := hlt i
    simpa [List.mem_range'_1] using hmem
  have hsame : List.Forall₂ (fun a i => l[i]? = some a)
      ((l.zipIdx.filter ((kept.contains ·) ∘ Prod.snd)).map Prod.fst)
      ((l.zipIdx.filter ((kept.contains ·) ∘ Prod.snd)).map Prod.snd) := by
    rw [List.forall₂_map_left_iff, List.forall₂_map_right_iff, List.forall₂_same]
    exact fun p hp => List.mem_zipIdx_iff_getElem?.1 (List.mem_filter.1 hp).1
  rw [hpositions] at hsame
  rw [withoutAxes, hfilter]
  exact hsame

end

/-- On a numbered side an anonymous slot comes from the slot that it pairs up with as well. -/
lemma comesFrom_iff (hnum : source.Numbered) {position : Nat} :
    ComesFrom source slot position ↔
      ∃ s, source[position]? = some s ∧ s.pairs slot = true := by
  cases slot with
  | expr _ => rfl
  | inferred => rfl
  | anonymous ordinal =>
    simp only [Slot.pairs_anonymous_iff, exists_eq_right]
    exact hnum.anonymousPosition?_eq_some_iff

/-- Without the axes of a reduction the source pairs up with the target slot by slot. -/
lemma forall₂_pairs_of_reducedAxes {axes : List Nat} (hnum : source.Numbered)
    (h : reducedAxes spec source target = .ok axes) :
    List.Forall₂ (fun s slot => Slot.pairs s slot = true) (withoutAxes axes source) target := by
  obtain ⟨kept, hkept, rfl⟩ := meets_reducedAxes.post_of_eq_ok h
  have hleft := forall₂_withoutAxes hkept.ascending hkept.lt_length
  refine (forall₂_comp hleft hkept.comesFrom.flip).imp ?_
  rintro s slot ⟨i, hs, hcomes⟩
  obtain ⟨s', hs', hpairs⟩ := (comesFrom_iff hnum).1 hcomes
  obtain rfl := Option.some.inj (hs.symm.trans hs')
  exact hpairs

/-- A reduction is resolved exactly when the slots of its target pair up with slots of its source in
the same order, the anonymous ones by ordinal.  Then it lists axes of the source, ascending, without
which the source pairs up with the target slot by slot.  Otherwise it is refused for the first slot
with which the target does not embed any more. -/
theorem reducedAxes_decides_embedding (spec : String) (hsource : source.Written)
    (target : Slots) :
    ((∃ axes, reducedAxes spec source target = .ok axes) ↔ target.Embeds source) ∧
      (∀ axes, reducedAxes spec source target = .ok axes →
        axes.Pairwise (· < ·) ∧ (∀ axis ∈ axes, axis < source.length) ∧
          List.Forall₂ (fun s slot => Slot.pairs s slot = true) (withoutAxes axes source) target) ∧
      ∀ fault, reducedAxes spec source target = .error fault →
        ∃ index slot, target[index]? = some slot ∧ FirstMisfit source target index ∧
          fault = .refusal ⟨spec, .reduction slot.text⟩ := by
  refine ⟨exists_reducedAxes_eq_ok_iff hsource.numbered, fun axes haxes => ?_, fun fault h => ?_⟩
  · obtain ⟨kept, -, heq⟩ := meets_reducedAxes.post_of_eq_ok haxes
    refine ⟨?_, ?_, forall₂_pairs_of_reducedAxes hsource.numbered haxes⟩
    · rw [heq]
      exact List.pairwise_lt_range.filter _
    · intro axis haxis
      rw [heq] at haxis
      exact List.mem_range.1 (List.mem_filter.1 haxis).1
  · exact (meets_reducedAxes_embeds hsource.numbered).bad_of_eq_error h

/-- A size is kept twice where it stands twice.  An anonymous slot stays the first one of its side
when another one would do. -/
theorem reducedAxes_decides_embedding_repeated_size :
    let source : Slots :=
      [.expr (.lit 2), .anonymous 0, .expr (.lit 3), .expr (.lit 2), .anonymous 1]
    let kept : Slots := [.expr (.lit 2), .anonymous 0, .expr (.lit 2)]
    let late : Slots := [.expr (.lit 3), .expr (.lit 2), .anonymous 0]
    source.Written ∧ kept.Embeds source ∧
      reducedAxes "2_32_ -> 2_2" source kept = .ok [2, 4] ∧
      withoutAxes [2, 4] source = [.expr (.lit 2), .anonymous 0, .expr (.lit 2)] ∧
      ¬late.Embeds source ∧
      ∃ index slot, late[index]? = some slot ∧ FirstMisfit source late index ∧
        slot.text = "_" := by
  intro source kept late
  have hsource : source.Written := ⟨{}, .size, "2_32_", ['2', '_', '3', '2', '_'], by rfl⟩
  have hreduce : reducedAxes "2_32_ -> 2_2" source kept = .ok [2, 4] := by rfl
  have hrefused : reducedAxes "2_32_ -> 32_" source late =
      .error (.refusal ⟨"2_32_ -> 32_", .reduction "_"⟩) := by rfl
  obtain ⟨hiff, -, -⟩ := reducedAxes_decides_embedding "2_32_ -> 2_2" hsource kept
  obtain ⟨-, -, hfault⟩ := reducedAxes_decides_embedding "2_32_ -> 32_" hsource late
  obtain ⟨index, slot, hslot, hmisfit, hsame⟩ := hfault _ hrefused
  have htext : slot.text = "_" := by simpa using hsame.symm
  exact ⟨hsource, hiff.1 ⟨_, hreduce⟩, hreduce, by rfl, hmisfit.not_embeds, index, slot, hslot,
    hmisfit, htext⟩

end Resolve

end ShapeAlgebra
