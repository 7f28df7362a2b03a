import ShapeAlgebra.Proofs.Resolve.Align
import ShapeAlgebra.Proofs.Resolve.Embedding

/-!
# Alignments as reductions backwards

An alignment walks along its target and asks of every slot whether the next axis of the source goes
there.  The reduction from the target back to the source walks along the same slots, with the same
question, and keeps the axes where the alignment puts a size.  Both have the same slots of the
source left when they are through: none if they succeed, and otherwise the first of those left is
the one that either of them reports.
-/

namespace ShapeAlgebra.Resolve

variable {spec spec' : String} {source target rest : Slots} {shape sizes : List Size}
  {kept : List Nat} {next : Nat}

/-! ## Filling up -/

/-- The sizes of the positions from `next` on: at those in `kept` they are the ones of `shape`, in
order, and at any other it is one. -/
structure FillsFrom (next : Nat) (kept : List Nat) (shape sizes : List Size) : Prop where
  shape_at :
    List.Forall₂ (fun position n => ∃ j, position = next + j ∧ sizes[j]? = some n) kept shape
  one_at : ∀ j n, sizes[j]? = some n → next + j ∉ kept → n = 1

namespace FillsFrom

/-- Nothing is filled with nothing. -/
lemma nil : FillsFrom next [] [] [] :=
  ⟨.nil, fun j n h => by cases h⟩

/-- A size further left does not change where the others go. -/
lemma shape_at_cons (h : FillsFrom (next + 1) kept shape sizes) (n : Size) :
    List.Forall₂ (fun position m => ∃ j, position = next + j ∧ (n :: sizes)[j]? = some m)
      kept shape := by
  refine h.shape_at.imp ?_
  rintro position m ⟨j, rfl, hm⟩
  exact ⟨j + 1, by omega, hm⟩

/-- A position that is kept takes the next size of the shape. -/
lemma keep (h : FillsFrom (next + 1) kept shape sizes) (n : Size) :
    FillsFrom next (next :: kept) (n :: shape) (n :: sizes) := by
  refine ⟨.cons ⟨0, rfl, rfl⟩ (h.shape_at_cons n), fun j m hm hnot => ?_⟩
  cases j with
  | zero => exact absurd List.mem_cons_self hnot
  | succ j =>
    rw [Nat.add_comm j 1, ← Nat.add_assoc] at hnot
    exact h.one_at j m hm fun hmem => hnot (List.mem_cons_of_mem next hmem)

/-- A position that is not kept takes a one. -/
lemma insert (h : FillsFrom (next + 1) kept shape sizes) :
    FillsFrom next kept shape (1 :: sizes) := by
  refine ⟨h.shape_at_cons 1, fun j m hm hnot => ?_⟩
  cases j with
  | zero => exact (Option.some.inj hm).symm
  | succ j =>
    rw [Nat.add_comm j 1, ← Nat.add_assoc] at hnot
    exact h.one_at j m hm hnot

/-- Without the positions that are not kept the sizes are those of `shape`. -/
lemma withoutAxes_eq (h : FillsFrom 0 kept shape sizes) (hascend : kept.Pairwise (· < ·))
    (hlt : ∀ i ∈ kept, i < sizes.length) :
    withoutAxes ((List.range sizes.length).filter fun i => !kept.contains i) sizes = shape := by
  rw [← List.forall₂_eq_eq_eq]
  refine (forall₂_comp (forall₂_withoutAxes hascend hlt) h.shape_at).imp ?_
  rintro a n ⟨i, ha, j, rfl, hn⟩
  rw [Nat.zero_add] at ha
  exact Option.some.inj (ha.symm.trans hn)

end FillsFrom

/-! ## Walking along together -/

/-- What an alignment has left behind the slots of the target from `next` on is what the reduction
back fails at.  The induction is on those slots. -/
lemma placeAxes_keptAxes (spec' : String) (hnum : target.Numbered) (hrest : target.drop next = rest)
    (hlen : source.length = shape.length) :
    ∃ sizes left, placeAxes source shape rest = .ok (sizes, left) ∧
      Meets (keptAxes spec' target next source)
        (fun kept => left = [] ∧ FillsFrom next kept shape sizes)
        (fun e => ∃ missing others, left = missing :: others ∧
          e = ⟨spec', .reduction missing.text⟩) := by
  induction rest generalizing next source shape with
  | nil =>
    refine ⟨[], source, rfl, ?_⟩
    cases source with
    | nil =>
      obtain rfl := List.eq_nil_of_length_eq_zero hlen.symm
      exact ⟨rfl, .nil⟩
    | cons slot source =>
      -- the target is used up: what is left of the source is what the reduction fails at
      rw [keptAxes_of_length_le (List.drop_eq_nil_iff.1 hrest)]
      exact ⟨slot, source, rfl, rfl⟩
  | cons s rest ih =>
    obtain ⟨hs, hrest'⟩ := getElem?_of_drop_eq_cons hrest
    cases source with
    | nil =>
      obtain ⟨sizes, left, hplace, hmeets⟩ := ih hrest' hlen
      -- the source is used up: the alignment goes on with ones, and the reduction asks for no more
      refine ⟨1 :: sizes, left, ?_, hmeets.1, hmeets.2.insert⟩
      simp only [placeAxes, hplace]
      rfl
    | cons slot source =>
      obtain ⟨n, shape, rfl⟩ := List.exists_cons_of_length_eq_add_one hlen.symm
      cases hpairs : s.pairs slot with
      | true =>
        obtain ⟨sizes, left, hplace, hmeets⟩ := ih hrest' (Nat.succ.inj hlen)
        refine ⟨n :: sizes, left, ?_, ?_⟩
        · -- the two ask the same question with its sides exchanged
          rw [Slot.pairs_comm] at hpairs
          simp only [placeAxes, hpairs, if_true, hplace]
          rfl
        · rw [keptAxes_of_pairs hnum hs hpairs]
          exact (hmeets.imp (fun kept h => ⟨h.1, h.2.keep n⟩) fun _ he => he).map
      | false =>
        obtain ⟨sizes, left, hplace, hmeets⟩ := ih hrest' hlen
        refine ⟨1 :: sizes, left, ?_, ?_⟩
        · rw [Slot.pairs_comm] at hpairs
          simp only [placeAxes, hpairs, Bool.false_eq_true, if_false, hplace]
          rfl
        · rw [keptAxes_of_not_pairs hnum hs hpairs]
          exact hmeets.imp (fun kept h => ⟨h.1, h.2.insert⟩) fun _ he => he

/-- An alignment and the reduction back either both succeed, or both fail for the same slot. -/
lemma align_reducedAxes_cases (spec spec' : String) (hnum : target.Numbered)
    (hsource : Describes source shape) :
    (∃ sizes kept, align spec source target shape = .ok sizes ∧
      keptAxes spec' target 0 source = .ok kept ∧ FillsFrom 0 kept shape sizes) ∨
    ∃ missing : Slot,
      align spec source target shape = .error (.refusal ⟨spec, .unmatched missing.text⟩) ∧
      keptAxes spec' target 0 source = .error ⟨spec', .reduction missing.text⟩ := by
  have hcheck : checkSource spec source shape = .ok () := checkSource_of_describes hsource
  obtain ⟨sizes, left, hplace, hmeets⟩ :=
    placeAxes_keptAxes spec' hnum List.drop_zero hsource.length_eq
  cases hkept : keptAxes spec' target 0 source with
  | ok kept =>
    obtain ⟨rfl, hfills⟩ := hmeets.post_of_eq_ok hkept
    refine .inl ⟨sizes, kept, ?_, rfl, hfills⟩
    simp only [align, hcheck, hplace]
    rfl
  | error e =>
    obtain ⟨missing, others, rfl, rfl⟩ := hmeets.bad_of_eq_error hkept
    refine .inr ⟨missing, ?_, rfl⟩
    simp only [align, hcheck, hplace]
    rfl

/-- What the reduction back keeps is where the sizes of the source stand, and at what it drops there
is a one. -/
lemma exists_reducedAxes_of_fillsFrom (hlen : sizes.length = target.length)
    (hkept : keptAxes spec target 0 source = .ok kept) (hfills : FillsFrom 0 kept shape sizes) :
    ∃ axes, reducedAxes spec target source = .ok axes ∧
      (∀ axis ∈ axes, sizes[axis]? = some 1) ∧ withoutAxes axes sizes = shape := by
  have hkeeps : Keeps target 0 source kept := meets_keptAxes.post_of_eq_ok hkept
  have hlt : ∀ i ∈ kept, i < sizes.length := hlen ▸ hkeeps.lt_length
  refine ⟨(List.range sizes.length).filter fun i => !kept.contains i, ?_, fun axis haxis => ?_,
    hfills.withoutAxes_eq hkeeps.ascending hlt⟩
  · rw [reducedAxes, hkept, hlen]
    rfl
  · rw [List.mem_filter, List.mem_range] at haxis
    have hget := List.getElem?_eq_getElem haxis.1
    have hone : sizes[axis] = 1 := by
      refine hfills.one_at axis _ hget ?_
      simpa using haxis.2
    rw [hget, hone]

/-- An alignment and the reduction back from its target are dual.  They are resolved for the same
sides.  Then the sizes of the alignment are one at the axes that the reduction drops, and at the
others they are those of the source, in order; so where the source itself has no axis of size one,
the axes of size one are those that are dropped.  Otherwise both are refused for the same slot,
the first one of the source that finds no place. -/
theorem align_dual_reducedAxes (spec spec' : String) (htarget : target.Written)
    (hlen : shape.length = source.length)
    (hinferred : ∀ slot ∈ source, slot.isInferred = false) :
    ((∃ sizes, align spec source target shape = .ok sizes) ↔
      ∃ axes, reducedAxes spec' target source = .ok axes) ∧
    (∀ sizes, align spec source target shape = .ok sizes →
      ∃ axes, reducedAxes spec' target source = .ok axes ∧ sizes.length = target.length ∧
        (∀ axis ∈ axes, sizes[axis]? = some 1) ∧ withoutAxes axes sizes = shape ∧
        (1 ∉ shape → ∀ axis, sizes[axis]? = some 1 ↔ axis ∈ axes)) ∧
    ∀ fault, align spec source target shape = .error fault →
      ∃ index slot, source[index]? = some slot ∧ FirstMisfit target source index ∧
        fault = .refusal ⟨spec, .unmatched slot.text⟩ ∧
        reducedAxes spec' target source = .error (.refusal ⟨spec', .reduction slot.text⟩) := by
  have hnum := htarget.numbered
  have hcases := align_reducedAxes_cases spec spec' hnum ⟨hlen.symm, hinferred⟩
  refine ⟨?_, fun sizes halign => ?_, fun fault halign => ?_⟩
  · obtain ⟨sizes, kept, halign, hkept, -⟩ | ⟨missing, halign, hkept⟩ := hcases
    · rw [reducedAxes, hkept]
      exact ⟨fun _ => ⟨_, rfl⟩, fun _ => ⟨sizes, halign⟩⟩
    · rw [reducedAxes, hkept, halign]
      constructor
      · rintro ⟨_, ⟨⟩⟩
      · rintro ⟨_, ⟨⟩⟩
  · obtain ⟨sizes', kept, halign', hkept, hfills⟩ | ⟨missing, halign', -⟩ := hcases
    · obtain rfl := Except.ok.inj (halign.symm.trans halign')
      have hsizes : sizes.length = target.length :=
        (meets_align.post_of_eq_ok halign).2.length_eq
      obtain ⟨axes, hreduce, hone, hshape⟩ :=
        exists_reducedAxes_of_fillsFrom hsizes hkept hfills
      refine ⟨axes, hreduce, hsizes, hone, hshape, fun hnot axis => ⟨fun hget => ?_, hone axis⟩⟩
      by_contra haxis
      -- a one that is not at a dropped axis would be a one of the shape
      exact hnot (hshape ▸ mem_withoutAxes hget haxis)
    · rw [halign] at halign'
      cases halign'
  · obtain ⟨_, _, halign', -⟩ | ⟨missing, halign', hkept⟩ := hcases
    · rw [halign] at halign'
      cases halign'
    · have hreduce : reducedAxes spec' target source =
          .error (.refusal ⟨spec', .reduction missing.text⟩) := by
        rw [reducedAxes, hkept]
        rfl
      obtain ⟨index, slot, hslot, hmisfit, hsame⟩ :=
        (meets_reducedAxes_embeds hnum).bad_of_eq_error hreduce
      have htext : missing.text = slot.text := by simpa using hsame
      rw [htext] at halign' hreduce
      exact ⟨index, slot, hslot, hmisfit, Except.error.inj (halign.symm.trans halign'), hreduce⟩

/-- Of three equal sizes the first and the second one are filled in, on both sides of the anonymous
slot.  Where the source has an anonymous slot behind them, it comes too late. -/
theorem align_dual_reducedAxes_repeated_size :
    let target : Slots := [.expr (.lit 2), .anonymous 0, .expr (.lit 2), .expr (.lit 2)]
    let source : Slots := [.expr (.lit 2), .expr (.lit 2)]
    let late : Slots := [.expr (.lit 2), .expr (.lit 2), .anonymous 0]
    target.Written ∧ align "22 -> 2_22" source target [2, 2] = .ok [2, 1, 2, 1] ∧
      reducedAxes "2_22 -> 22" target source = .ok [1, 3] ∧
      withoutAxes [1, 3] [2, 1, 2, 1] = ([2, 2] : List Size) ∧
      align "22_ -> 2_22" late target [2, 2, 5] =
        .error (.refusal ⟨"22_ -> 2_22", .unmatched "_"⟩) ∧
      reducedAxes "2_22 -> 22_" target late =
        .error (.refusal ⟨"2_22 -> 22_", .reduction "_"⟩) ∧
      ∃ index slot, late[index]? = some slot ∧ FirstMisfit target late index ∧
        slot.text = "_" := by
  intro target source late
  have htarget : target.Written := ⟨{}, .size, "2_22", ['2', '_', '2', '2'], by rfl⟩
  have halign : align "22 -> 2_22" source target [2, 2] = .ok [2, 1, 2, 1] := by rfl
  have hreduce : reducedAxes "2_22 -> 22" target source = .ok [1, 3] := by rfl
  have hrefused : align "22_ -> 2_22" late target [2, 2, 5] =
      .error (.refusal ⟨"22_ -> 2_22", .unmatched "_"⟩) := by rfl
  have hlen : ([2, 2] : List Size).length = source.length := rfl
  have hlen' : ([2, 2, 5] : List Size).length = late.length := rfl
  obtain ⟨-, hsizes, -⟩ :=
    align_dual_reducedAxes "22 -> 2_22" "2_22 -> 22" htarget hlen (by decide)
  obtain ⟨-, -, hfaults⟩ :=
    align_dual_reducedAxes "22_ -> 2_22" "2_22 -> 22_" htarget hlen' (by decide)
  obtain ⟨axes, hreduce', -, -, hshape, -⟩ := hsizes _ halign
  obtain rfl : [1, 3] = axes := Except.ok.inj (hreduce.symm.trans hreduce')
  obtain ⟨index, slot, hslot, hmisfit, hsame, hrefused'⟩ := hfaults _ hrefused
  have htext : "_" = slot.text := by simpa using hsame
  rw [← htext] at hrefused'
  exact ⟨htarget, halign, hreduce, hshape, hrefused, hrefused', index, slot, hslot, hmisfit,
    htext.symm⟩

end ShapeAlgebra.Resolve
