import ShapeAlgebra.Proofs.Resolve.Source
import ShapeAlgebra.Warp.Run

/-!
# Contracts of runs

The contract of a step follows from that of its resolution and that of the call it comes to, and
the contract of a run from those of its steps: what holds of the tensor at one stage and is carried
by every step to the next holds at the last one.  `Plan.runFirst` is the run of the first steps of
a plan, and a run of the plan is such a run with the run of the other steps behind it.
-/

namespace ShapeAlgebra

namespace Warp

variable {τ ε : Type} {h : Host τ ε} {verbose : Bool} {kind : StepKind} {source target : Slots}

namespace Run

/-! ## One run behind another -/

/-- Two runs, one behind the other, end as the second does on what the first leaves. -/
lemma outcome_andThen (r : Run τ ε) (next : τ → Run τ ε) :
    (r.andThen next).outcome = r.outcome >>= fun t => (next t).outcome := by
  unfold andThen
  cases r.outcome <;> rfl

/-- Behind a success the calls of the second run follow those of the first. -/
lemma calls_andThen_of_ok {r : Run τ ε} {t : τ} (hr : r.outcome = .ok t) (next : τ → Run τ ε) :
    (r.andThen next).calls = r.calls ++ (next t).calls := by
  unfold andThen
  rw [hr]

/-- Behind a failure nothing follows. -/
lemma andThen_of_error {r : Run τ ε} {fault : Fault (RunError ε)} (hr : r.outcome = .error fault)
    (next : τ → Run τ ε) : r.andThen next = r := by
  obtain ⟨calls, events, outcome⟩ := r
  obtain rfl : outcome = .error fault := hr
  rfl

end Run

/-! ## Steps -/

/-- A source that passes has one slot for each axis. -/
lemma meets_checkRank {spec : String} {shape : List Size} {trapped : Prop} :
    Meets (Checked.ofExcept (checkRank spec source shape))
      (fun _ => source.length = shape.length) (Resolve.ReportedFor spec trapped) := by
  refine Meets.ofExcept ?_
  unfold checkRank
  split
  · rename_i hlen
    exact hlen
  · rfl

/-- A step that cannot be resolved makes no call. -/
lemma runStep_of_resolve_eq_error {t : τ} {fault : Fault ShapeError}
    (hresolve : resolve kind source target (h.shape t) = .error fault) :
    runStep h verbose kind source target t = .stopped (fault.map .shape) := by
  simp only [runStep, hresolve]

/-- A step that is resolved makes the call that it comes to. -/
lemma calls_runStep_of_resolve_eq_ok {t : τ} {call : Call}
    (hresolve : resolve kind source target (h.shape t) = .ok call) :
    (runStep h verbose kind source target t).calls = [call] := by
  simp only [runStep, hresolve]
  cases h.perform t call <;> rfl

/-- A step that is resolved ends as its call does. -/
lemma outcome_runStep_of_resolve_eq_ok {t : τ} {call : Call}
    (hresolve : resolve kind source target (h.shape t) = .ok call) :
    (runStep h verbose kind source target t).outcome =
      (h.perform t call).mapError (Fault.map (.host (stepSpec source target) kind)) := by
  simp only [runStep, hresolve]
  cases h.perform t call <;> rfl

/-- A step that is completed has made the one call that it was resolved to. -/
lemma runStep_eq_ok {t t' : τ} (hstep : (runStep h verbose kind source target t).outcome = .ok t') :
    ∃ call, resolve kind source target (h.shape t) = .ok call ∧ h.perform t call = .ok t' ∧
      (runStep h verbose kind source target t).calls = [call] := by
  cases hresolve : resolve kind source target (h.shape t) with
  | error fault =>
    rw [runStep_of_resolve_eq_error hresolve] at hstep
    cases hstep
  | ok call =>
    rw [outcome_runStep_of_resolve_eq_ok hresolve, mapError_eq_ok_iff] at hstep
    exact ⟨call, rfl, hstep, calls_runStep_of_resolve_eq_ok hresolve⟩

/-- The contract of a step, from that of its resolution and that of its call. -/
lemma meets_runStep {t : τ} {post : τ → Prop} {cause : RunError ε → Prop} {trapped : Prop}
    (hstep : Meets (resolve kind source target (h.shape t))
      (fun call => Meets (h.perform t call) post
        (Fault.Within (fun e => cause (.host (stepSpec source target) kind e)) trapped))
      (Fault.Within (fun e => cause (.shape e)) trapped)) :
    Meets (runStep h verbose kind source target t).outcome post (Fault.Within cause trapped) := by
  cases hresolve : resolve kind source target (h.shape t) with
  | error fault =>
    rw [runStep_of_resolve_eq_error hresolve]
    exact (Fault.within_map _ fault).2 (hstep.bad_of_eq_error hresolve)
  | ok call =>
    rw [outcome_runStep_of_resolve_eq_ok hresolve]
    refine Meets.mapError ((hstep.post_of_eq_ok hresolve).imp (fun _ hpost => hpost) ?_)
    exact fun fault hfault => (Fault.within_map _ fault).2 hfault

/-! ## Runs -/

/-- A run that is completed has completed its first step, and the others behind it. -/
lemma runSteps_cons_eq_ok {steps : List (StepKind × Slots)} {t t' : τ}
    (hrun : (runSteps h verbose source ((kind, target) :: steps) t).outcome = .ok t') :
    ∃ current, (runStep h verbose kind source target t).outcome = .ok current ∧
      (runSteps h verbose target steps current).outcome = .ok t' ∧
      (runSteps h verbose source ((kind, target) :: steps) t).calls =
        (runStep h verbose kind source target t).calls ++
          (runSteps h verbose target steps current).calls := by
  rw [runSteps_cons, Run.outcome_andThen] at hrun
  obtain ⟨current, hstep, hrest⟩ := bind_eq_ok_iff.1 hrun
  exact ⟨current, hstep, hrest, Run.calls_andThen_of_ok hstep _⟩

/-- The contract of a run: `inv` relates stages and tensors, and every step carries it on. -/
theorem meets_runSteps {inv : Slots → τ → Prop} {bad : Fault (RunError ε) → Prop}
    {steps : List (StepKind × Slots)} {t : τ}
    (hstep : ∀ source kind target t, (kind, target) ∈ steps → inv source t →
      Meets (runStep h verbose kind source target t).outcome (inv target) bad)
    (hinv : inv source t) :
    Meets (runSteps h verbose source steps t).outcome (inv (stageAfter source steps)) bad := by
  induction steps generalizing source t with
  | nil => exact hinv
  | cons step steps ih =>
    obtain ⟨kind, target⟩ := step
    rw [runSteps_cons, stageAfter_cons, Run.outcome_andThen]
    refine (hstep source kind target t List.mem_cons_self hinv).bind fun t' hinv' => ?_
    exact ih (fun source kind target t hmem =>
      hstep source kind target t (List.mem_cons_of_mem _ hmem)) hinv'

/-- A run that fails has completed the steps before one that fails in the same way. -/
theorem runSteps_eq_error {steps : List (StepKind × Slots)} {t : τ} {fault : Fault (RunError ε)}
    (hrun : (runSteps h verbose source steps t).outcome = .error fault) :
    ∃ before kind target after current, steps = before ++ (kind, target) :: after ∧
      (runSteps h verbose source before t).outcome = .ok current ∧
      (runStep h verbose kind (stageAfter source before) target current).outcome =
        .error fault := by
  induction steps generalizing source t with
  | nil => cases hrun
  | cons step steps ih =>
    obtain ⟨kind, target⟩ := step
    rw [runSteps_cons, Run.outcome_andThen] at hrun
    rcases bind_eq_error_iff.1 hrun with hstep | ⟨next, hstep, hrest⟩
    · exact ⟨[], kind, target, steps, t, rfl, rfl, hstep⟩
    · obtain ⟨before, kind', target', after, current, rfl, hbefore, hfails⟩ := ih hrest
      refine ⟨(kind, target) :: before, kind', target', after, current, rfl, ?_, hfails⟩
      rw [runSteps_cons, Run.outcome_andThen]
      exact bind_eq_ok_iff.2 ⟨next, hstep, hbefore⟩

/-- The stage behind some steps and one more is that of the last one. -/
lemma stageAfter_append_singleton (steps : List (StepKind × Slots)) (kind : StepKind) :
    stageAfter source (steps ++ [(kind, target)]) = target := by
  induction steps generalizing source with
  | nil => rfl
  | cons step steps ih => exact ih

namespace Plan

variable {p : Plan}

/-- The run of the first `m` steps of a plan. -/
def runFirst (p : Plan) (h : Host τ ε) (verbose : Bool) (m : Nat) (t : τ) : Run τ ε :=
  runSteps h verbose p.first (p.steps.take m) t

/-- The stage that the first `m` steps of a plan lead to. -/
def stageAt (p : Plan) (m : Nat) : Slots := stageAfter p.first (p.steps.take m)

/-- A run of a plan is a run of its first steps, and behind it one of the others. -/
theorem run_eq_runFirst_andThen (p : Plan) (h : Host τ ε) (verbose : Bool) (m : Nat) (t : τ) :
    p.run h verbose t =
      (p.runFirst h verbose m t).andThen
        (runSteps h verbose (p.stageAt m) (p.steps.drop m)) := by
  unfold run runFirst stageAt
  rw [← runSteps_append, List.take_append_drop]

/-- The stages from that behind the first `m` steps on. -/
lemma drop_stages {m : Nat} (hm : m ≤ p.length) :
    p.stages.drop m = p.stageAt m :: (p.steps.drop m).map Prod.snd := by
  obtain ⟨spec, first, steps⟩ := p
  change (first :: steps.map Prod.snd).drop m =
    stageAfter first (steps.take m) :: (steps.drop m).map Prod.snd
  induction m generalizing first steps with
  | zero => rfl
  | succ m ih =>
    cases steps with
    | nil => cases hm
    | cons step steps => exact ih step.2 steps (Nat.le_of_succ_le_succ hm)

/-- The stage that the first `m` steps lead to is the stage at `m`. -/
lemma getElem?_stages {m : Nat} (hm : m ≤ p.length) : p.stages[m]? = some (p.stageAt m) := by
  rw [← List.head?_drop, drop_stages hm]
  rfl

/-- A run of a plan that fails has completed the first `m` steps, and fails in the next one. -/
theorem run_eq_error {t : τ} {fault : Fault (RunError ε)}
    (hrun : (p.run h verbose t).outcome = .error fault) :
    ∃ m kind source target current, p.kinds[m]? = some kind ∧ p.stages[m]? = some source ∧
      p.stages[m + 1]? = some target ∧ (p.runFirst h verbose m t).outcome = .ok current ∧
      (runStep h verbose kind source target current).outcome = .error fault := by
  obtain ⟨before, kind, target, after, current, hsteps, hbefore, hfails⟩ :=
    runSteps_eq_error hrun
  -- the step that fails has the steps `before` in front of it, and their number for its index
  have hlength : p.length = before.length + (after.length + 1) := by
    rw [length, hsteps, List.length_append, List.length_cons]
  have htake : p.steps.take before.length = before := by
    rw [hsteps, List.take_left]
  have htakeNext : p.steps.take (before.length + 1) = before ++ [(kind, target)] := by
    rw [hsteps, List.take_length_add_append]
    rfl
  have hsource : p.stageAt before.length = stageAfter p.first before := by
    rw [stageAt, htake]
  have htarget : p.stageAt (before.length + 1) = target := by
    rw [stageAt, htakeNext, stageAfter_append_singleton]
  refine ⟨before.length, kind, stageAfter p.first before, target, current, ?_, ?_, ?_, ?_, hfails⟩
  · rw [kinds, hsteps, List.getElem?_map, List.getElem?_append_right le_rfl, Nat.sub_self]
    rfl
  · rw [getElem?_stages (by omega), hsource]
  · rw [getElem?_stages (by omega), htarget]
  · rw [runFirst, htake]
    exact hbefore

/-- The stage that a step leads to is a stage of the plan. -/
lemma mem_stages_of_mem_steps {step : StepKind × Slots} (hstep : step ∈ p.steps) :
    step.2 ∈ p.stages :=
  List.mem_cons_of_mem p.first (List.mem_map_of_mem hstep)

end Plan

end Warp

end ShapeAlgebra
