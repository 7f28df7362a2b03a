import ShapeAlgebra.Proofs.Resolve.Align
import ShapeAlgebra.Proofs.Resolve.Expand
import ShapeAlgebra.Proofs.Resolve.Permute
import ShapeAlgebra.Proofs.Resolve.View
import ShapeAlgebra.Proofs.Warp.Plan
import ShapeAlgebra.Proofs.Warp.Run
import ShapeAlgebra.Proofs.Warp.ShapeHost

/-!
# What a run keeps up

On the host of shapes every completed step leaves a shape that `Matches` the stage it leads to: as
many axes as the stage has slots, and none of a negative size.  A step needs only the second half
from the shape it starts at.  So of all steps only the first can find that the number of axes is
wrong, no call is refused for its form, and nothing traps.
-/

namespace ShapeAlgebra.Warp

variable {verbose : Bool} {source target : Slots} {shape : List Size}

/-- A shape with an axis for each slot of `stage`, and no negative sizes. -/
structure Matches (stage : Slots) (shape : List Size) : Prop where
  length_eq : shape.length = stage.length
  nonneg : ∀ n ∈ shape, 0 ≤ n

/-- Whether a run fails because the host refuses a call for its form. -/
def RunError.isFormal : RunError HostError → Bool
  | .shape _ => false
  | .host _ _ cause => cause.isFormal

/-- A fault that is neither a trap nor the refusal of a call for its form. -/
abbrev WellFormed : Fault (RunError HostError) → Prop :=
  Fault.Within (fun e => e.isFormal = false) False

/-- A refusal of a resolver is not one for the form of a call. -/
lemma wellFormed_of_reportedFor {spec : String} {trapped : Prop} {fault : Fault ShapeError}
    (h : Resolve.ReportedFor spec trapped fault) (htrapped : ¬trapped) :
    fault.Within (fun e => (RunError.shape e).isFormal = false) False :=
  h.imp (fun _ _ => rfl) htrapped

/-- A call whose form is right is not refused for it. -/
lemma wellFormed_of_formalOnlyIf {wrong : Prop} {spec : String} {kind : StepKind}
    {fault : Fault HostError} (h : FormalOnlyIf wrong fault) (hright : ¬wrong) :
    fault.Within (fun e => (RunError.host spec kind e).isFormal = false) False :=
  h.imp (fun _ hformal => Bool.eq_false_iff.2 (mt hformal hright)) id

/-- A step keeps up what its resolution and its call keep up. -/
lemma meets_runStep_of_resolve {kind : StepKind}
    (h : Meets (resolve kind source target shape)
      (fun call => Meets (shapeHost.perform shape call) (Matches target)
        (Fault.Within (fun e => (RunError.host (stepSpec source target) kind e).isFormal = false)
          False))
      (Fault.Within (fun e => (RunError.shape e).isFormal = false) False)) :
    Meets (runStep shapeHost verbose kind source target shape).outcome (Matches target)
      WellFormed :=
  meets_runStep h

/-! ## Views -/

/-- A view with a size for each slot of the target, and at most one of them to be inferred. -/
lemma meets_perform_view {spec : String} {kind : StepKind} {sizes : List Size}
    (hlen : sizes.length = target.length) (hcount : sizes.count (-1) ≤ 1) :
    Meets (shapeHost.perform shape (.view sizes)) (Matches target)
      (Fault.Within (fun e => (RunError.host spec kind e).isFormal = false) False) := by
  refine ShapeHost.meets_view.imp ?_ ?_
  · rintro out ⟨_, hnonneg, hout⟩
    exact ⟨hout.length_eq.symm.trans hlen, hnonneg⟩
  · intro fault hfault
    exact wellFormed_of_formalOnlyIf hfault (Nat.not_lt.2 hcount)

/-- Without negative sizes in the shape, `-1` is the size of the slots to be inferred only. -/
lemma eq_neg_one_iff_of_hasSize (hshape : ∀ n ∈ shape, 0 ≤ n) {slot : Slot} {n : Size}
    (h : Resolve.HasSize source shape slot n) : n = -1 ↔ slot.isInferred = true := by
  cases slot with
  | expr e =>
    have hn := Size.ne_neg_one_of_nonneg (Resolve.hasSize_expr.1 h).2
    simp [hn, Slot.isInferred]
  | anonymous ordinal =>
    obtain ⟨position, _, hget⟩ := Resolve.hasSize_anonymous.1 h
    have hn := Size.ne_neg_one_of_nonneg (hshape n (List.mem_of_getElem? hget))
    simp [hn, Slot.isInferred]
  | inferred => simp [Resolve.hasSize_inferred.1 h, Slot.isInferred]

/-- On a shape without negative sizes the marks in the sizes of a view are those of the slots to be
inferred. -/
lemma count_neg_one_of_hasSize (hshape : ∀ n ∈ shape, 0 ≤ n) {sizes : List Size}
    (h : List.Forall₂ (Resolve.HasSize source shape) target sizes) :
    sizes.count (-1) = target.countP Slot.isInferred := by
  induction h with
  | nil => rfl
  | cons hslot _ ih =>
    rw [List.count_cons, List.countP_cons, ih]
    simp [eq_neg_one_iff_of_hasSize hshape hslot]

/-- A view leaves a shape that matches the target stage. -/
lemma meets_runStep_view (hshape : ∀ n ∈ shape, 0 ≤ n) :
    Meets (runStep shapeHost verbose .view source target shape).outcome (Matches target)
      WellFormed := by
  refine meets_runStep_of_resolve (Meets.map (Resolve.meets_view.imp ?_ ?_))
  · rintro sizes ⟨_, hsizes, hinferred⟩
    have hcount : sizes.count (-1) ≤ 1 := by
      rw [count_neg_one_of_hasSize hshape hsizes]
      exact hinferred
    exact meets_perform_view hsizes.length_eq.symm hcount
  · intro fault hfault
    exact wellFormed_of_reportedFor hfault (not_not.2 hshape)

/-! ## Permutations -/

/-- The origins of as many slots as there are axes are a permutation of the axes. -/
lemma isPermutation_of_comesFrom {axes : List Nat} (hsource : source.length = shape.length)
    (htarget : source.length = target.length)
    (hcomes : List.Forall₂ (Resolve.ComesFrom source) target axes) (hnodup : axes.Nodup) :
    ShapeHost.isPermutation shape.length axes = true := by
  refine ShapeHost.isPermutation_iff.2 ⟨?_, ?_, hnodup⟩
  · rw [← hcomes.length_eq, ← htarget, hsource]
  · intro axis haxis
    obtain ⟨slot, _, hslot⟩ := exists_of_mem_right hcomes haxis
    rw [← hsource]
    exact hslot.lt_length

/-- A permutation leaves a shape that matches the target stage. -/
lemma meets_runStep_permute (hnum : target.Numbered) (hshape : ∀ n ∈ shape, 0 ≤ n) :
    Meets (runStep shapeHost verbose .permute source target shape).outcome (Matches target)
      WellFormed := by
  refine meets_runStep_of_resolve ((meets_checkRank.imp (fun _ hlen => hlen) fun fault hfault =>
    wellFormed_of_reportedFor hfault not_false).bind fun _ hsource => ?_)
  refine Meets.map ((Resolve.meets_permute hnum).imp ?_ ?_)
  · rintro axes ⟨htarget, hcomes, hnodup⟩
    have hperm := isPermutation_of_comesFrom hsource htarget hcomes hnodup
    refine ShapeHost.meets_permute.imp ?_ ?_
    · rintro out ⟨hout, _⟩
      have hlen : out.length = target.length :=
        hout.length_eq.trans (hsource.symm.trans htarget)
      exact ⟨hlen, fun n hn => hshape n (hout.subset hn)⟩
    · intro fault hfault
      exact wellFormed_of_formalOnlyIf hfault (by simp [hperm])
  · intro fault hfault
    exact wellFormed_of_reportedFor hfault not_false

/-! ## Expansions -/

/-- Expanding makes no size negative. -/
lemma nonneg_of_expandsTo {factors out : List Size} (hshape : ∀ n ∈ shape, 0 ≤ n)
    (h : List.Forall₂ (fun axis m => ShapeHost.ExpandsTo axis.1 axis.2 m) (shape.zip factors)
      out) : ∀ m ∈ out, 0 ≤ m := by
  intro m hm
  obtain ⟨⟨n, factor⟩, haxis, hexpand⟩ := exists_of_mem_right h hm
  have hn : 0 ≤ n := hshape n (List.of_mem_zip haxis).1
  exact hexpand.nonneg hn

/-- An expansion leaves a shape that matches the target stage. -/
lemma meets_runStep_expand (hshape : ∀ n ∈ shape, 0 ≤ n) :
    Meets (runStep shapeHost verbose .expand source target shape).outcome (Matches target)
      WellFormed := by
  refine meets_runStep_of_resolve (Meets.map (Resolve.meets_expandPositional.imp ?_ ?_))
  · rintro factors ⟨hsource, htarget, hfactors⟩
    have hlen : factors.length = shape.length := by
      rw [← hfactors.length_eq, List.length_zip, List.length_zip, ← htarget, hsource.length_eq,
        Nat.min_self, Nat.min_self]
    refine ShapeHost.meets_expand.imp ?_ ?_
    · rintro out ⟨_, hout⟩
      refine ⟨?_, nonneg_of_expandsTo hshape hout⟩
      rw [← hout.length_eq, List.length_zip, hlen, Nat.min_self, ← hsource.length_eq, htarget]
    · intro fault hfault
      exact wellFormed_of_formalOnlyIf hfault (not_not.2 hlen)
  · intro fault hfault
    exact wellFormed_of_reportedFor hfault not_false

/-! ## Alignments -/

/-- An alignment leaves nothing to be inferred. -/
lemma count_neg_one_of_filledUp (hshape : ∀ n ∈ shape, 0 ≤ n) {sizes : List Size}
    (h : Resolve.FilledUp shape target sizes) : sizes.count (-1) = 0 := by
  refine List.count_eq_zero.2 fun hmem => ?_
  rcases h.mem (-1) hmem with hone | hshape'
  · exact absurd hone (by decide)
  · exact Size.ne_neg_one_of_nonneg (hshape (-1) hshape') rfl

/-- An alignment leaves a shape that matches the target stage. -/
lemma meets_runStep_align (hshape : ∀ n ∈ shape, 0 ≤ n) :
    Meets (runStep shapeHost verbose .align source target shape).outcome (Matches target)
      WellFormed := by
  refine meets_runStep_of_resolve (Meets.map (Resolve.meets_align.imp ?_ ?_))
  · rintro sizes ⟨_, hsizes⟩
    have hcount : sizes.count (-1) ≤ 1 := by
      rw [count_neg_one_of_filledUp hshape hsizes]
      exact Nat.zero_le 1
    exact meets_perform_view hsizes.length_eq hcount
  · intro fault hfault
    exact wellFormed_of_reportedFor hfault not_false

/-! ## Runs -/

/-- What a step of any kind keeps up. -/
lemma meets_runStep_shapeHost (kind : StepKind) (hnum : target.Numbered)
    (hshape : ∀ n ∈ shape, 0 ≤ n) :
    Meets (runStep shapeHost verbose kind source target shape).outcome (Matches target)
      WellFormed := by
  cases kind with
  | view => exact meets_runStep_view hshape
  | permute => exact meets_runStep_permute hnum hshape
  | expand => exact meets_runStep_expand hshape
  | align => exact meets_runStep_align hshape

/-- What a run of at least one step keeps up. -/
theorem meets_runSteps_shapeHost {steps : List (StepKind × Slots)} (hne : steps ≠ [])
    (hnum : ∀ step ∈ steps, step.2.Numbered) (hshape : ∀ n ∈ shape, 0 ≤ n) :
    Meets (runSteps shapeHost verbose source steps shape).outcome
      (Matches (stageAfter source steps)) WellFormed := by
  cases steps with
  | nil => exact absurd rfl hne
  | cons step steps =>
    obtain ⟨kind, target⟩ := step
    rw [runSteps_cons, stageAfter_cons, Run.outcome_andThen]
    have hfirst : target.Numbered := hnum (kind, target) List.mem_cons_self
    refine (meets_runStep_shapeHost kind hfirst hshape).bind fun current hcurrent => ?_
    refine meets_runSteps (fun source kind target shape hmem hmatches => ?_) hcurrent
    exact meets_runStep_shapeHost kind (hnum _ (List.mem_cons_of_mem _ hmem)) hmatches.nonneg

variable {r : Registry} {chain tags : String} {p : Plan}

/-- Behind any number of steps the shape matches the stage that they lead to. -/
lemma meets_runFirst_shapeHost (hread : Plan.read r chain tags = .ok p)
    (hshape : ∀ n ∈ shape, 0 ≤ n) {m : Nat} (hm : 0 < m) (hmp : m ≤ p.length) :
    Meets (p.runFirst shapeHost verbose m shape).outcome (Matches (p.stageAt m)) WellFormed := by
  refine meets_runSteps_shapeHost ?_ (fun step hstep => ?_) hshape
  · rw [Ne, List.take_eq_nil_iff, not_or]
    refine ⟨hm.ne', fun hnil => ?_⟩
    rw [Plan.length, hnil] at hmp
    exact absurd hm (Nat.not_lt.2 hmp)
  · have hmem : step.2 ∈ p.stages := Plan.mem_stages_of_mem_steps (List.mem_of_mem_take hstep)
    exact Plan.numbered_of_read hread hmem

/-- A run ends in a way that is well formed. -/
lemma meets_run_shapeHost (hread : Plan.read r chain tags = .ok p)
    (hshape : ∀ n ∈ shape, 0 ≤ n) :
    Meets (p.run shapeHost verbose shape).outcome (fun _ => True) WellFormed := by
  by_cases hnil : p.steps = []
  · rw [Plan.run, hnil]
    exact trivial
  · refine (meets_runSteps_shapeHost hnil (fun step hstep => ?_) hshape).imp
      (fun _ _ => trivial) fun _ hfault => hfault
    exact Plan.numbered_of_read hread (Plan.mem_stages_of_mem_steps hstep)

/-- A plan that can be read, run on a shape without negative sizes: after every completed step the
shape has no negative sizes and an axis for each slot of the stage, so that no check of the number
of axes fails from the second step on.  The host of shapes refuses no call for its form, and there
is no trap. -/
theorem run_keeps_stages (hread : Plan.read r chain tags = .ok p) (hshape : ∀ n ∈ shape, 0 ≤ n) :
    (∀ m stage current, 0 < m → p.stages[m]? = some stage →
      (p.runFirst shapeHost verbose m shape).outcome = .ok current →
        (∀ n ∈ current, 0 ≤ n) ∧ current.length = stage.length ∧
        ∀ spec, checkRank spec stage current = .ok () ∧
          Resolve.checkSource spec stage current ≠
            .error ⟨spec, .axisCount stage.length current.length⟩) ∧
    (∀ spec kind cause,
      (p.run shapeHost verbose shape).outcome = .error (.refusal (.host spec kind cause)) →
        (∀ sizes, cause ≠ .manyInferred sizes) ∧
        (∀ axes rank, cause ≠ .notPermutation axes rank) ∧
        ∀ expected found, cause ≠ .factorCount expected found) ∧
    ∀ t, (p.run shapeHost verbose shape).outcome ≠ .error (.trap t) := by
  have hall : Meets (p.run shapeHost verbose shape).outcome (fun _ => True) WellFormed :=
    meets_run_shapeHost hread hshape
  refine ⟨?_, ?_, ?_⟩
  · intro m stage current hm hstage hcurrent
    have hmp : m ≤ p.length := by
      have hlt := (List.getElem?_eq_some_iff.1 hstage).1
      rw [Plan.length_stages] at hlt
      exact Nat.le_of_lt_succ hlt
    rw [Plan.getElem?_stages hmp] at hstage
    obtain rfl := Option.some.inj hstage
    have hmatches := (meets_runFirst_shapeHost hread hshape hm hmp).post_of_eq_ok hcurrent
    refine ⟨hmatches.nonneg, hmatches.length_eq, fun spec => ⟨?_, ?_⟩⟩
    · exact if_pos hmatches.length_eq.symm
    · unfold Resolve.checkSource
      rw [if_neg (not_not.2 hmatches.length_eq.symm)]
      split <;> simp
  · intro spec kind cause hcause
    -- whatever the host refuses is not one of the three formal errors
    have hformal : cause.isFormal = false := hall.bad_of_eq_error hcause
    refine ⟨fun sizes h => ?_, fun axes rank h => ?_, fun expected found h => ?_⟩
    all_goals
      subst h
      cases hformal
  · intro t ht
    exact hall.bad_of_eq_error ht

/-- A permutation and an expansion behind it. -/
theorem run_keeps_stages_transposed_then_doubled :
    ∃ p stage, Plan.read .sample "b,d -> d,b -> d,2*b" "p e" = .ok p ∧
      p.stages[1]? = some stage ∧
      (p.runFirst shapeHost false 1 [6, 4]).outcome = .ok [4, 6] ∧
      checkRank "d,b -> d,2*b" stage [4, 6] = .ok () ∧
      ∀ t, (p.run shapeHost false [6, 4]).outcome ≠ .error (.trap t) := by
  have hplan : ∃ p stage, Plan.read .sample "b,d -> d,b -> d,2*b" "p e" = .ok p ∧
      p.stages[1]? = some stage ∧ (p.runFirst shapeHost false 1 [6, 4]).outcome = .ok [4, 6] :=
    ⟨_, _, rfl, rfl, rfl⟩
  obtain ⟨p, stage, hread, hstage, hfirst⟩ := hplan
  have hshape : ∀ n ∈ ([6, 4] : List Size), 0 ≤ n := by
    intro n hn
    rcases List.mem_pair.1 hn with rfl | rfl <;> decide
  obtain ⟨hkeep, _, htrap⟩ := run_keeps_stages hread hshape
  obtain ⟨_, _, hcheck⟩ := hkeep 1 stage [4, 6] Nat.one_pos hstage hfirst
  exact ⟨p, stage, hread, hstage, hfirst, (hcheck _).1, htrap⟩

end ShapeAlgebra.Warp
