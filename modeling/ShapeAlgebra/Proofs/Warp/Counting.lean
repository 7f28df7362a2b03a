import ShapeAlgebra.Proofs.Warp.Plan
import ShapeAlgebra.Proofs.Warp.Run
import ShapeAlgebra.Proofs.Warp.ShapeHost

/-!
# The number of elements along a run

Of the calls that a run makes on the host of shapes only the expansions change the number of
elements, and each multiplies it by its factors other than `-1`.  The account is kept in the
integers, so it is not disturbed by a product that no size can hold.  A call is enough to know
what it does to the account; how the step was resolved to it does not matter.
-/

namespace ShapeAlgebra.Warp

variable {verbose : Bool} {shape out : List Size}

/-- The factors by which a call multiplies axes; `-1` is not one of them. -/
def Call.factors : Call → List Size
  | .expand factors => factors.filter (· ≠ -1)
  | .view _ | .permute _ => []

/-! ## Calls -/

/-- What a call that is not refused does to the number of elements. -/
lemma exactProduct_of_perform {call : Call} (h : shapeHost.perform shape call = .ok out) :
    Size.exactProduct out = Size.exactProduct shape * Size.exactProduct call.factors := by
  cases call with
  | view sizes =>
    have hview := ShapeHost.meets_view.post_of_eq_ok h
    rw [hview.1, Call.factors, Size.exactProduct_nil, Int.mul_one]
  | permute axes =>
    have hpermute := ShapeHost.meets_permute.post_of_eq_ok h
    rw [Size.exactProduct_eq_of_perm hpermute.1, Call.factors, Size.exactProduct_nil, Int.mul_one]
  | expand factors =>
    obtain ⟨hlen, hexpand⟩ := ShapeHost.meets_expand.post_of_eq_ok h
    exact ShapeHost.exactProduct_of_expandsTo hlen hexpand

/-- Only a step of the kind of expansions is resolved to an expansion. -/
lemma factors_eq_nil_of_resolve {kind : StepKind} {source target : Slots} {call : Call}
    (hkind : kind ≠ .expand) (h : resolve kind source target shape = .ok call) :
    call.factors = [] := by
  cases kind with
  | view =>
    obtain ⟨sizes, _, rfl⟩ := map_eq_ok_iff.1 h
    rfl
  | permute =>
    obtain ⟨_, _, hpermute⟩ := bind_eq_ok_iff.1 h
    obtain ⟨axes, _, rfl⟩ := map_eq_ok_iff.1 hpermute
    rfl
  | expand => exact absurd rfl hkind
  | align =>
    obtain ⟨sizes, _, rfl⟩ := map_eq_ok_iff.1 h
    rfl

/-! ## Runs -/

/-- The account of the elements along the steps of a run. -/
theorem exactProduct_of_runSteps {source : Slots} {steps : List (StepKind × Slots)}
    (h : (runSteps shapeHost verbose source steps shape).outcome = .ok out) :
    Size.exactProduct out = Size.exactProduct shape *
      Size.exactProduct
        ((runSteps shapeHost verbose source steps shape).calls.flatMap Call.factors) := by
  induction steps generalizing source shape with
  | nil =>
    obtain rfl := Except.ok.inj h
    exact (Int.mul_one _).symm
  | cons step steps ih =>
    obtain ⟨kind, target⟩ := step
    obtain ⟨current, hstep, hrest, hcalls⟩ := runSteps_cons_eq_ok h
    obtain ⟨call, _, hperform, hcall⟩ := runStep_eq_ok hstep
    rw [hcalls, hcall, List.flatMap_append, List.flatMap_singleton, Size.exactProduct_append,
      ih hrest, exactProduct_of_perform hperform, Int.mul_assoc]

/-- Without a step of the kind of expansions, a run multiplies no axis. -/
lemma factors_runSteps_eq_nil {source : Slots} {steps : List (StepKind × Slots)}
    (hkinds : ∀ step ∈ steps, step.1 ≠ .expand)
    (h : (runSteps shapeHost verbose source steps shape).outcome = .ok out) :
    (runSteps shapeHost verbose source steps shape).calls.flatMap Call.factors = [] := by
  induction steps generalizing source shape with
  | nil => rfl
  | cons step steps ih =>
    obtain ⟨kind, target⟩ := step
    obtain ⟨current, hstep, hrest, hcalls⟩ := runSteps_cons_eq_ok h
    obtain ⟨call, hresolve, _, hcall⟩ := runStep_eq_ok hstep
    have hkind : kind ≠ .expand := hkinds (kind, target) List.mem_cons_self
    rw [hcalls, hcall, List.flatMap_append, List.flatMap_singleton,
      factors_eq_nil_of_resolve hkind hresolve, List.nil_append]
    exact ih (fun step hmem => hkinds step (List.mem_cons_of_mem _ hmem)) hrest

/-- Where a run succeeds on the host of shapes, the number of elements in the end is that in the
beginning times all factors other than `-1` in the expansions that the host was asked for.  Views,
permutations and alignments alone leave it as it is. -/
theorem run_accounts_for_elements {p : Plan}
    (hrun : (p.run shapeHost verbose shape).outcome = .ok out) :
    Size.exactProduct out = Size.exactProduct shape *
        Size.exactProduct ((p.run shapeHost verbose shape).calls.flatMap Call.factors) ∧
      ((∀ kind ∈ p.kinds, kind ≠ .expand) →
        Size.exactProduct out = Size.exactProduct shape) := by
  have haccount := exactProduct_of_runSteps hrun
  refine ⟨haccount, fun hkinds => ?_⟩
  have hsteps : ∀ step ∈ p.steps, step.1 ≠ .expand := fun step hstep =>
    hkinds step.1 (List.mem_map_of_mem hstep)
  rw [factors_runSteps_eq_nil hsteps hrun, Size.exactProduct_nil, Int.mul_one] at haccount
  exact haccount

/-- A transposition and an expansion of one axis by two. -/
theorem run_accounts_for_elements_doubled :
    ∃ p, Plan.read .sample "b,d -> d,b -> d,2*b" "p e" = .ok p ∧
      (p.run shapeHost false [6, 4]).outcome = .ok [4, 12] ∧
      (p.run shapeHost false [6, 4]).calls.flatMap Call.factors = [2] ∧
      Size.exactProduct [4, 12] = Size.exactProduct [6, 4] * Size.exactProduct [2] := by
  have hplan : ∃ p, Plan.read .sample "b,d -> d,b -> d,2*b" "p e" = .ok p ∧
      (p.run shapeHost false [6, 4]).outcome = .ok [4, 12] ∧
      (p.run shapeHost false [6, 4]).calls.flatMap Call.factors = [2] :=
    ⟨_, rfl, rfl, rfl⟩
  obtain ⟨p, hread, hrun, hfactors⟩ := hplan
  have haccount := (run_accounts_for_elements hrun).1
  rw [hfactors] at haccount
  exact ⟨p, hread, hrun, hfactors, haccount⟩

end ShapeAlgebra.Warp
