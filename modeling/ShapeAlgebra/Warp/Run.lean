import ShapeAlgebra.Resolve.Align
import ShapeAlgebra.Resolve.Expand
import ShapeAlgebra.Resolve.Permute
import ShapeAlgebra.Resolve.View
import ShapeAlgebra.Warp.Host
import ShapeAlgebra.Warp.Plan

/-!
# Running a plan

A plan is run step by step.  A step is resolved against the shape that the tensor has at that
moment, the host is called, and whatever shape the host reports afterwards is the one the next
step meets.  A run records the calls it has made and the events, also when it fails; runs are
put one after the other by `Run.andThen`, which goes on only behind a success.
-/

namespace ShapeAlgebra.Warp

/-! ## Errors of a run -/

/-- Why a run fails, on a host that refuses calls for causes of type `ε`. -/
inductive RunError (ε : Type) where
  /-- The plan cannot be read, or a step cannot be resolved. -/
  | shape (error : ShapeError)
  /-- The host refuses the call of the step `spec`. -/
  | host (spec : String) (kind : StepKind) (cause : ε)
  deriving DecidableEq, Repr

namespace RunError

variable {ε : Type}

/-- The spec in which a run fails. -/
def spec : RunError ε → String
  | .shape error => error.spec
  | .host spec _ _ => spec

/-- The message of an error, given the wording of the host. -/
def message (wording : ε → String) : RunError ε → String
  | .shape error => error.message
  | .host spec kind cause =>
    "Host operation " ++ quoted kind.name ++ " failed in " ++ quoted spec ++ ": " ++ wording cause

end RunError

/-! ## Runs -/

/-- The record of a run. -/
structure Run (τ ε : Type) where
  /-- The calls of the host, in order. -/
  calls : List Call
  /-- What happened, in order. -/
  events : List Event
  /-- The tensor in the end, or what stopped the run. -/
  outcome : Checked (RunError ε) τ

namespace Run

variable {τ ε : Type}

/-- The run that does nothing to `t`. -/
def done (t : τ) : Run τ ε := ⟨[], [], .ok t⟩

/-- The run that is stopped by `fault` before it has done anything. -/
def stopped (fault : Fault (RunError ε)) : Run τ ε := ⟨[], [], .error fault⟩

/-- The run `r`, and behind it, if it succeeds, the run that `next` makes of its tensor. -/
def andThen (r : Run τ ε) (next : τ → Run τ ε) : Run τ ε :=
  match r.outcome with
  | .ok t => ⟨r.calls ++ (next t).calls, r.events ++ (next t).events, (next t).outcome⟩
  | .error fault => ⟨r.calls, r.events, .error fault⟩

@[simp]
theorem done_andThen (t : τ) (next : τ → Run τ ε) : (done t).andThen next = next t := rfl

@[simp]
theorem stopped_andThen (fault : Fault (RunError ε)) (next : τ → Run τ ε) :
    (stopped fault).andThen next = stopped fault := rfl

@[simp]
theorem andThen_done (r : Run τ ε) : r.andThen done = r := by
  cases r with
  | mk calls events outcome => cases outcome <;> simp [andThen, done]

/-- It does not matter how runs are grouped. -/
theorem andThen_assoc (r : Run τ ε) (next after : τ → Run τ ε) :
    (r.andThen next).andThen after = r.andThen fun t => (next t).andThen after := by
  cases r with
  | mk calls events outcome =>
    cases outcome with
    | error fault => rfl
    | ok t => cases h : (next t).outcome <;> simp [andThen, h, List.append_assoc]

end Run

/-! ## Steps -/

/-- The spec of the step from `source` to `target`. -/
def stepSpec (source target : Slots) : String := Slots.text source ++ " -> " ++ Slots.text target

/-- Checks that `source` has one slot for each axis of `shape`. -/
def checkRank (spec : String) (source : Slots) (shape : List Size) : Except ShapeError Unit :=
  if source.length = shape.length then .ok ()
  else .error ⟨spec, .axisCount source.length shape.length⟩

/-- The call that a step comes to on a tensor of shape `shape`. -/
def resolve (kind : StepKind) (source target : Slots) (shape : List Size) :
    Checked ShapeError Call :=
  let spec := stepSpec source target
  match kind with
  | .view => (Resolve.view spec source target shape).map .view
  | .permute => do
    Checked.ofExcept (checkRank spec source shape)
    (Resolve.permute spec source target).map .permute
  | .expand => (Resolve.expandPositional spec source target shape).map .expand
  | .align => (Resolve.align spec source target shape).map .view

/-- The report that a step of kind `kind` was resolved to `call`. -/
def resolution (kind : StepKind) (spec : String) (shape : List Size) : Call → Event
  | .view sizes => if kind = .align then .aligned spec shape sizes else .viewed spec shape sizes
  | .permute axes => .permuted spec axes
  | .expand factors => .expanded spec shape factors

/-- The run of one step. -/
def runStep {τ ε : Type} (h : Host τ ε) (verbose : Bool) (kind : StepKind)
    (source target : Slots) (t : τ) : Run τ ε :=
  let spec := stepSpec source target
  let shape := h.shape t
  match resolve kind source target shape with
  | .error fault => .stopped (fault.map .shape)
  | .ok call =>
    let resolved := resolution kind spec shape call
    match h.perform t call with
    | .error fault => ⟨[call], [resolved], .error (fault.map (.host spec kind))⟩
    | .ok t' =>
      ⟨[call], [resolved, .stepped verbose kind.name spec shape (h.shape t')], .ok t'⟩

/-- The run of the steps `steps` from the stage `source`. -/
def runSteps {τ ε : Type} (h : Host τ ε) (verbose : Bool) (source : Slots) :
    List (StepKind × Slots) → τ → Run τ ε
  | [], t => .done t
  | (kind, target) :: steps, t =>
    (runStep h verbose kind source target t).andThen (runSteps h verbose target steps)

@[simp]
theorem runSteps_nil {τ ε : Type} (h : Host τ ε) (verbose : Bool) (source : Slots) (t : τ) :
    runSteps h verbose source [] t = .done t := rfl

@[simp]
theorem runSteps_cons {τ ε : Type} (h : Host τ ε) (verbose : Bool) (source target : Slots)
    (kind : StepKind) (steps : List (StepKind × Slots)) (t : τ) :
    runSteps h verbose source ((kind, target) :: steps) t =
      (runStep h verbose kind source target t).andThen (runSteps h verbose target steps) := rfl

/-- Running steps and then more steps is running them all. -/
theorem runSteps_append {τ ε : Type} (h : Host τ ε) (verbose : Bool) (source : Slots)
    (steps more : List (StepKind × Slots)) (t : τ) :
    runSteps h verbose source (steps ++ more) t =
      (runSteps h verbose source steps t).andThen
        (runSteps h verbose (stageAfter source steps) more) := by
  induction steps generalizing source t with
  | nil => simp
  | cons step steps ih =>
    obtain ⟨kind, target⟩ := step
    simp only [List.cons_append, runSteps_cons, stageAfter_cons, Run.andThen_assoc]
    congr 1
    funext t
    exact ih target t

/-- The run of a plan on a tensor. -/
def Plan.run {τ ε : Type} (p : Plan) (h : Host τ ε) (verbose : Bool) (t : τ) : Run τ ε :=
  runSteps h verbose p.first p.steps t

/-- The run of the plan that a chain and its tags stand for. -/
def run {τ ε : Type} (r : Registry) (h : Host τ ε) (chain tags : String) (verbose : Bool)
    (t : τ) : Run τ ε :=
  match Plan.read r chain tags with
  | .ok p => p.run h verbose t
  | .error e => .stopped (.refusal (.shape e))

end ShapeAlgebra.Warp
