import ShapeAlgebra.Proofs.Resolve.Align
import ShapeAlgebra.Proofs.Resolve.Expand
import ShapeAlgebra.Proofs.Resolve.Reduce
import ShapeAlgebra.Proofs.Resolve.View
import ShapeAlgebra.Proofs.Spec.Naming
import ShapeAlgebra.Proofs.Warp.Plan
import ShapeAlgebra.Proofs.Warp.Run
import ShapeAlgebra.Transform
import ShapeAlgebra.Warp.ShapeHost

/-!
# The specs that refusals name

A transform is refused for the spec it was asked for by, and if it was asked for by shapes, for the
spec that their descriptions make.  A step of a run is refused for the spec that its two stages
make, by the resolver as by the host, so the spec in which a run fails tells the step at which it
fails.
-/

namespace ShapeAlgebra

variable {α β : Type} {r : Registry} {mode : NumberMode} {spec : String} {shape : List Size}

/-- Every refusal of `x` is reported for `spec`. -/
def RefusalsName (spec : String) (x : Checked ShapeError α) : Prop :=
  ∀ e, x = .error (.refusal e) → e.spec = spec

/-- What a contract says of the specs that are reported, whatever it says of traps. -/
lemma Meets.refusalsName {x : Checked ShapeError α} {post : α → Prop} {trapped : Prop}
    (h : Meets x post (Resolve.ReportedFor spec trapped)) : RefusalsName spec x :=
  fun _ he => h.bad_of_eq_error he

/-- That refusals name a spec, as a condition on outcomes; of a trap nothing is said. -/
lemma RefusalsName.meets {x : Checked ShapeError α} (h : RefusalsName spec x) :
    Meets x (fun _ => True) (Resolve.ReportedFor spec True) := by
  refine (meets_self x).imp (fun _ _ => trivial) fun fault hfault => ?_
  cases fault with
  | refusal e => exact h e hfault
  | trap _ => trivial

/-- Errors that name a spec are refusals that do. -/
lemma ErrorsName.refusalsName {x : Except ShapeError α} (h : ErrorsName spec x) :
    RefusalsName spec (Checked.ofExcept x) := by
  intro e he
  cases x with
  | ok a => cases he
  | error e' =>
    obtain rfl := Fault.refusal.inj (Except.error.inj he)
    exact h e' rfl

/-- The refusal of a sequence is that of one of its parts. -/
lemma RefusalsName.bind {x : Checked ShapeError α} {f : α → Checked ShapeError β}
    (h : RefusalsName spec x) (hf : ∀ a, RefusalsName spec (f a)) :
    RefusalsName spec (x >>= f) := by
  intro e he
  rcases bind_eq_error_iff.1 he with hx | ⟨a, _, ha⟩
  · exact h e hx
  · exact hf a e ha

/-- What is made of a value has no part in what refusals name. -/
lemma RefusalsName.map {x : Checked ShapeError α} (h : RefusalsName spec x) (f : α → β) :
    RefusalsName spec (x.map f) := by
  intro e he
  cases x with
  | ok a => cases he
  | error fault =>
    obtain rfl := Except.error.inj he
    exact h e rfl

/-! ## Transforms -/

namespace Registry

/-- A view is refused for the transform. -/
lemma refusalsName_view : RefusalsName spec (r.view spec shape).result :=
  errorsName_readTransform.refusalsName.bind fun _ => Resolve.meets_view.refusalsName

/-- An alignment is refused for the transform. -/
lemma refusalsName_align : RefusalsName spec (r.align spec shape).result :=
  errorsName_readTransform.refusalsName.bind fun _ => Resolve.meets_align.refusalsName

/-- A permutation is refused for the transform. -/
lemma refusalsName_permute : RefusalsName spec (r.permute spec).result :=
  errorsName_readTransform.refusalsName.bind fun _ => Resolve.meets_permute_comesFrom.refusalsName

/-- A reduction is refused for the transform. -/
lemma refusalsName_reducedAxes : RefusalsName spec (r.reducedAxes spec).result :=
  errorsName_readTransform.refusalsName.bind fun _ => Resolve.meets_reducedAxes.refusalsName

/-- A permutation between two sources is refused for the two as they are described. -/
lemma refusalsName_permuteBetween (source target : Source) :
    RefusalsName (source.describe ++ " -> " ++ target.describe)
      (r.permuteBetween source target).result := by
  refine (errorsName_mapError _).refusalsName.bind fun befores => ?_
  refine (errorsName_mapError _).refusalsName.bind fun afters => ?_
  exact Resolve.meets_permute_comesFrom.refusalsName

/-- An expansion is refused for the source and the expansions as they are described. -/
lemma refusalsName_expand (source : Source) (expansions : Expansions) :
    RefusalsName (source.describe ++ " : " ++ expansions.describe)
      (r.expand source expansions shape).result := by
  refine (errorsName_mapError _).refusalsName.bind fun slots => ?_
  refine (errorsName_mapError _).refusalsName.bind fun pairs => ?_
  exact Resolve.meets_expand.refusalsName

end Registry

/-! ## Plans -/

namespace Warp

variable {chain tags : String}

/-- Tags that cannot be read are reported for the chain. -/
lemma Plan.errorsName_readTags : ErrorsName chain (readTags chain tags) := by
  refine ErrorsName.mapM (fun tag => ?_) _
  unfold readTag
  split
  · exact errorsName_ok _
  · exact errorsName_error _

/-- A wrong number of tags is reported for the chain. -/
lemma Plan.errorsName_assemble (stages : List Slots) (kinds : List StepKind) :
    ErrorsName chain (assemble chain tags stages kinds) := by
  unfold assemble
  dsimp only
  split
  · exact errorsName_error _
  · split
    · exact errorsName_ok _
    · exact errorsName_error _

/-- A plan that cannot be read is reported for the chain. -/
lemma Plan.errorsName_read : ErrorsName chain (Plan.read r chain tags) :=
  Spec.errorsName_readChain.bind fun stages =>
    errorsName_readTags.bind fun kinds => errorsName_assemble stages kinds

/-! ## Runs -/

variable {τ ε : Type} {h : Host τ ε} {verbose : Bool} {kind : StepKind} {source target : Slots}

/-- A step is refused for its two stages. -/
lemma refusalsName_resolve :
    RefusalsName (stepSpec source target) (resolve kind source target shape) := by
  cases kind with
  | view => exact Resolve.meets_view.refusalsName.map _
  | permute =>
    have hrank : Meets (Checked.ofExcept (checkRank (stepSpec source target) source shape))
        (fun _ => source.length = shape.length)
        (Resolve.ReportedFor (stepSpec source target) False) := meets_checkRank
    refine RefusalsName.bind hrank.refusalsName fun _ => ?_
    exact Resolve.meets_permute_comesFrom.refusalsName.map _
  | expand => exact Resolve.meets_expandPositional.refusalsName.map _
  | align => exact Resolve.meets_align.refusalsName.map _

/-- A step that is refused names its two stages, whether it is the resolver that refuses or the
host. -/
lemma spec_of_runStep {t : τ} {e : RunError ε}
    (hstep : (runStep h verbose kind source target t).outcome = .error (.refusal e)) :
    e.spec = stepSpec source target := by
  have hhost : ∀ call, Meets (h.perform t call) (fun _ => True)
      (Fault.Within (fun cause => (RunError.host (stepSpec source target) kind cause).spec =
        stepSpec source target) True) := by
    refine fun call => (meets_self _).imp (fun _ _ => trivial) fun fault _ => ?_
    cases fault with
    | refusal cause => rfl
    | trap _ => trivial
  have hresolve : RefusalsName (stepSpec source target)
      (resolve kind source target (h.shape t)) := refusalsName_resolve
  have hcontract : Meets (runStep h verbose kind source target t).outcome (fun _ => True)
      (Fault.Within (fun e => e.spec = stepSpec source target) True) :=
    meets_runStep (hresolve.meets.imp (fun call _ => hhost call) fun _ hbad => hbad)
  exact hcontract.bad_of_eq_error hstep

/-- A run that is refused names the two stages of the step at which it fails. -/
lemma spec_of_run {p : Plan} {t : τ} {e : RunError ε}
    (hrun : (p.run h verbose t).outcome = .error (.refusal e)) :
    ∃ m kind source target current, p.kinds[m]? = some kind ∧ p.stages[m]? = some source ∧
      p.stages[m + 1]? = some target ∧ (p.runFirst h verbose m t).outcome = .ok current ∧
      (runStep h verbose kind source target current).outcome = .error (.refusal e) ∧
      e.spec = Slots.text source ++ " -> " ++ Slots.text target := by
  obtain ⟨m, kind, source, target, current, hkind, hsource, htarget, hfirst, hstep⟩ :=
    p.run_eq_error hrun
  exact ⟨m, kind, source, target, current, hkind, hsource, htarget, hfirst, hstep,
    spec_of_runStep hstep⟩

end Warp

/-- Every error names the spec that the caller gave: the text itself where there is one, the
descriptions of the arguments where there is none, and the two stages of the step at which a run
fails. -/
theorem errors_name_the_spec (r : Registry) :
    (∀ spec, ErrorsName spec (Spec.read r .size spec) ∧ ErrorsName spec (r.expr spec) ∧
      ErrorsName spec (r.readShape spec) ∧ ErrorsName spec (r.lookup spec) ∧
      ErrorsName spec (r.declare spec).result ∧ ErrorsName spec (r.updateSizes spec).result ∧
      RefusalsName spec (r.permute spec).result ∧ RefusalsName spec (r.reducedAxes spec).result) ∧
    (∀ policy spec, ErrorsName spec (r.declareWith policy spec).result) ∧
    (∀ spec shape, ErrorsName spec (r.checkShape spec shape) ∧
      RefusalsName spec (r.view spec shape).result ∧
      RefusalsName spec (r.align spec shape).result) ∧
    (∀ chain tags, ErrorsName chain (Warp.Plan.read r chain tags)) ∧
    (∀ source target : Source, RefusalsName (source.describe ++ " -> " ++ target.describe)
      (r.permuteBetween source target).result) ∧
    (∀ (source : Source) (expansions : Expansions) (shape : List Size),
      RefusalsName (source.describe ++ " : " ++ expansions.describe)
        (r.expand source expansions shape).result) ∧
    ∀ (τ ε : Type) (p : Warp.Plan) (h : Warp.Host τ ε) (verbose : Bool) (t : τ)
      (e : Warp.RunError ε), (p.run h verbose t).outcome = .error (.refusal e) →
      ∃ m kind source target current, p.kinds[m]? = some kind ∧ p.stages[m]? = some source ∧
        p.stages[m + 1]? = some target ∧ (p.runFirst h verbose m t).outcome = .ok current ∧
        (Warp.runStep h verbose kind source target current).outcome = .error (.refusal e) ∧
        e.spec = Slots.text source ++ " -> " ++ Slots.text target := by
  refine ⟨fun spec => ?_, fun policy spec => Registry.errorsName_declareWith policy,
    fun spec shape => ?_, fun chain tags => Warp.Plan.errorsName_read,
    Registry.refusalsName_permuteBetween, fun source expansions shape =>
      Registry.refusalsName_expand source expansions,
    fun τ ε p h verbose t e hrun => Warp.spec_of_run hrun⟩
  · exact ⟨Spec.errorsName_read, Registry.errorsName_expr, Registry.errorsName_readShape,
      Registry.errorsName_lookup, Registry.errorsName_declareWith r.policy,
      Registry.errorsName_updateSizes, Registry.refusalsName_permute,
      Registry.refusalsName_reducedAxes⟩
  · exact ⟨Registry.errorsName_checkShape shape, Registry.refusalsName_view,
      Registry.refusalsName_align⟩

/-- A view that is refused with the blanks of its spec, and a run that fails in a call of its second
step. -/
theorem errors_name_the_spec_of_refusals :
    (∃ e, (Registry.sample.view " b -> q " [6]).result = .error (.refusal e) ∧
      e.spec = " b -> q ") ∧
      ∃ p e m source target, Warp.Plan.read .sample "b -> b,1 -> b,b" "vv" = .ok p ∧
        (p.run Warp.shapeHost false [6]).outcome = .error (.refusal e) ∧
        p.stages[m]? = some source ∧ p.stages[m + 1]? = some target ∧
        e.spec = Slots.text source ++ " -> " ++ Slots.text target := by
  obtain ⟨-, -, hshape, -, -, -, hruns⟩ := errors_name_the_spec Registry.sample
  have hview : ∃ e, (Registry.sample.view " b -> q " [6]).result = .error (.refusal e) := ⟨_, rfl⟩
  have hrun : ∃ p e, Warp.Plan.read .sample "b -> b,1 -> b,b" "vv" = .ok p ∧
      (p.run Warp.shapeHost false [6]).outcome = .error (.refusal e) := ⟨_, _, rfl, rfl⟩
  obtain ⟨e, he⟩ := hview
  obtain ⟨p, e', hread, he'⟩ := hrun
  obtain ⟨m, _, source, target, _, _, hsource, htarget, _, _, hspec⟩ := hruns _ _ p _ _ _ e' he'
  exact ⟨⟨e, he, (hshape " b -> q " [6]).2.1 e he⟩,
    p, e', m, source, target, hread, he', hsource, htarget, hspec⟩

end ShapeAlgebra
