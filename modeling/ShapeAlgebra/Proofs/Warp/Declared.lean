import ShapeAlgebra.Proofs.Resolve.Stripped
import ShapeAlgebra.Proofs.Spec.Stripped
import ShapeAlgebra.Proofs.Warp.Plan
import ShapeAlgebra.Proofs.Warp.Run
import ShapeAlgebra.Warp.ShapeHost

/-!
# The sizes of a tensor and the declared ones

A warp goes by the sizes that the tensor has.  Declared sizes come in only where a view or an
expansion writes an expression that its source does not settle.  In a plan without such a step they
do not matter: two registries that agree on symbols and names make the same run of it, call by call
and event by event, to the same tensor or the same error.  Both runs are that of the stripped plan.
-/

namespace ShapeAlgebra.Warp

variable {τ ε : Type} {h : Host τ ε} {verbose : Bool} {source target : Slots}

/-! ## Settled plans -/

/-- Whether a step of a kind depends on no declared size.  A view may copy the size of any slot of
the source, an expansion only that of the slot in the same place. -/
def StepKind.settled (source target : Slots) : StepKind → Bool
  | .view => target.all (source.settles source)
  | .expand => (source.zip target).all fun p => source.settles [p.1] p.2
  | .permute | .align => true

/-- Whether no step from the stage `source` on depends on a declared size. -/
def stepsSettled (source : Slots) : List (StepKind × Slots) → Bool
  | [] => true
  | (kind, target) :: steps => kind.settled source target && stepsSettled target steps

/-- The steps with their stages stripped. -/
def strippedSteps (steps : List (StepKind × Slots)) : List (StepKind × Slots) :=
  steps.map fun step => (step.1, step.2.stripped)

namespace Plan

/-- Whether no step of a plan depends on a declared size. -/
def settled (p : Plan) : Bool := stepsSettled p.first p.steps

/-- The plan with its stages stripped. -/
def stripped (p : Plan) : Plan := ⟨p.spec, p.first.stripped, strippedSteps p.steps⟩

end Plan

/-- Whether a step is settled does not depend on declared sizes. -/
lemma StepKind.settled_stripped (kind : StepKind) :
    kind.settled source.stripped target.stripped = kind.settled source target := by
  cases kind with
  | view =>
    have hmap : target.stripped = target.map Slot.stripped := rfl
    simp only [settled, hmap, List.all_map]
    congr 1
    funext slot
    exact Slots.settles_stripped source source slot
  | expand =>
    have hzip : source.stripped.zip target.stripped =
        (source.zip target).map (Prod.map Slot.stripped Slot.stripped) := List.zip_map
    simp only [settled, hzip, List.all_map]
    congr 1
    funext ⟨before, after⟩
    exact Slots.settles_stripped source [before] after
  | permute => rfl
  | align => rfl

/-- Whether steps are settled does not depend on declared sizes. -/
lemma stepsSettled_stripped (steps : List (StepKind × Slots)) :
    stepsSettled source.stripped (strippedSteps steps) = stepsSettled source steps := by
  induction steps generalizing source with
  | nil => rfl
  | cons step steps ih =>
    obtain ⟨kind, target⟩ := step
    change (kind.settled source.stripped target.stripped &&
      stepsSettled target.stripped (strippedSteps steps)) = _
    rw [StepKind.settled_stripped, ih]
    rfl

/-- Whether a plan is settled does not depend on declared sizes. -/
lemma Plan.settled_stripped (p : Plan) : p.stripped.settled = p.settled :=
  stepsSettled_stripped p.steps

/-! ## Reading -/

/-- A plan is put together without regard to declared sizes. -/
lemma Plan.assemble_stripped (spec tags : String) (stages : List Slots) (kinds : List StepKind) :
    assemble spec tags (stages.map Slots.stripped) kinds =
      (assemble spec tags stages kinds).map Plan.stripped := by
  cases stages with
  | nil => rfl
  | cons first rest =>
    simp only [assemble, List.map_cons, List.length_cons, List.length_map]
    split
    · rw [List.zip_map_right]
      rfl
    · rfl

/-- A plan that is read without declared sizes. -/
lemma Plan.read_stripped (r : Registry) (chain tags : String) :
    read r.stripped chain tags = (read r chain tags).map Plan.stripped := by
  simp only [read, Spec.readChain_stripped, bind_map_eq, map_bind_eq, assemble_stripped]

/-! ## Running -/

/-- A step is described without declared sizes. -/
lemma stepSpec_stripped : stepSpec source.stripped target.stripped = stepSpec source target := by
  simp [stepSpec]

/-- A settled step comes to the same call, or the same error, without declared sizes. -/
lemma resolve_stripped {kind : StepKind} (hstep : kind.settled source target = true)
    (shape : List Size) :
    resolve kind source.stripped target.stripped shape = resolve kind source target shape := by
  unfold resolve
  rw [stepSpec_stripped]
  cases kind with
  | view => simp only [Resolve.view_stripped hstep]
  | permute => simp only [Resolve.permute_stripped, checkRank, Slots.length_stripped]
  | expand => simp only [Resolve.expandPositional_stripped hstep]
  | align => simp only [Resolve.align_stripped]

/-- The run of a settled step is the same without declared sizes. -/
lemma runStep_stripped {kind : StepKind} (hstep : kind.settled source target = true) (t : τ) :
    runStep h verbose kind source.stripped target.stripped t =
      runStep h verbose kind source target t := by
  simp only [runStep, resolve_stripped hstep, stepSpec_stripped]

/-- The run of settled steps is the same without declared sizes. -/
theorem runSteps_stripped {steps : List (StepKind × Slots)}
    (hsteps : stepsSettled source steps = true) (t : τ) :
    runSteps h verbose source.stripped (strippedSteps steps) t =
      runSteps h verbose source steps t := by
  induction steps generalizing source t with
  | nil => rfl
  | cons step steps ih =>
    obtain ⟨kind, target⟩ := step
    obtain ⟨hstep, hrest⟩ := Bool.and_eq_true_iff.1 hsteps
    rw [runSteps_cons, ← runStep_stripped hstep]
    change (runStep h verbose kind source.stripped target.stripped t).andThen
      (runSteps h verbose target.stripped (strippedSteps steps)) = _
    congr 1
    funext current
    exact ih hrest current

/-- A warp whose steps are settled is run in the same way without declared sizes. -/
lemma run_stripped {r : Registry} {chain tags : String}
    (hsettled : ∀ p, Plan.read r chain tags = .ok p → p.settled = true) (t : τ) :
    run r.stripped h chain tags verbose t = run r h chain tags verbose t := by
  unfold run
  rw [Plan.read_stripped]
  cases hread : Plan.read r chain tags with
  | error e => rfl
  | ok p => exact runSteps_stripped (hsettled p hread) t

/-- Over registries with the same symbols and names, a warp in which every expression of a view or
of an expansion is settled by the sizes of its source runs in the same way, whatever sizes are
declared. -/
theorem run_eq_of_sameNames {r r' : Registry} {chain tags : String} (hnames : r.SameNames r')
    (hsettled : ∀ p, Plan.read r chain tags = .ok p → p.settled = true) (t : τ) :
    run r h chain tags verbose t = run r' h chain tags verbose t := by
  have hsettled' : ∀ p', Plan.read r' chain tags = .ok p' → p'.settled = true := by
    intro p' hread'
    -- both plans are the same when they are stripped
    have hstripped := Plan.read_stripped r chain tags
    rw [hnames.stripped_eq, Plan.read_stripped, hread'] at hstripped
    obtain ⟨p, hread, heq⟩ := map_eq_ok_iff.1 hstripped.symm
    rw [← Plan.settled_stripped, ← heq, Plan.settled_stripped]
    exact hsettled p hread
  rw [← run_stripped hsettled, ← run_stripped hsettled', hnames.stripped_eq]

/-- With other sizes declared, or none, a batch of ten and a depth of three are transposed, the
batch is tripled, and its new size is inferred in a view that puts it back in front. -/
theorem run_eq_of_sameNames_tripled :
    let other := Registry.registerAll {} [⟨"Batch", "b", some 9⟩, ⟨"Depth", "d", none⟩]
    run .sample shapeHost "b,d -> d,b -> d,3*b -> -1,d" "pev" false [10, 3] =
        run other shapeHost "b,d -> d,b -> d,3*b -> -1,d" "pev" false [10, 3] ∧
      (run other shapeHost "b,d -> d,b -> d,3*b -> -1,d" "pev" false [10, 3]).outcome =
        .ok [30, 3] := by
  intro other
  have hnames : Registry.sample.SameNames other := ⟨rfl, rfl⟩
  have hplan : ∃ p, Plan.read .sample "b,d -> d,b -> d,3*b -> -1,d" "pev" = .ok p ∧
      p.settled = true := ⟨_, rfl, by decide⟩
  obtain ⟨p, hread, hsettled⟩ := hplan
  refine ⟨run_eq_of_sameNames hnames (fun p' hread' => ?_) [10, 3], rfl⟩
  rw [hread] at hread'
  obtain rfl := Except.ok.inj hread'
  exact hsettled

end ShapeAlgebra.Warp
