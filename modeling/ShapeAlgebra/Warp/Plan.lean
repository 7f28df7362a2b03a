import ShapeAlgebra.Spec.Basic
import ShapeAlgebra.Warp.Kind

/-!
# Plans

A plan is a chain of stages with a kind for each of the steps between them.  What is wrong with a
text is found while the plan is read, before a host is asked for anything: a stage that cannot be
read, a tag that is not known, a number of tags that does not fit.  Whether the two stages of a step
go together, and go with its kind, is found when the step is run.  That includes a `-1` in a stage
that a step starts from: it can be read, and by the time it is refused the steps in front of it have
called the host.
-/

namespace ShapeAlgebra.Warp

/-- A chain of stages, and how to get from each to the next. -/
structure Plan where
  /-- The text of the chain. -/
  spec : String
  /-- The first stage. -/
  first : Slots
  /-- The steps, each with its kind and the stage it leads to. -/
  steps : List (StepKind × Slots)
  deriving DecidableEq, Repr

/-- The stage that `steps` lead to from the stage `source`. -/
def stageAfter (source : Slots) : List (StepKind × Slots) → Slots
  | [] => source
  | (_, target) :: steps => stageAfter target steps

@[simp]
theorem stageAfter_nil (source : Slots) : stageAfter source [] = source := rfl

@[simp]
theorem stageAfter_cons (source target : Slots) (kind : StepKind)
    (steps : List (StepKind × Slots)) :
    stageAfter source ((kind, target) :: steps) = stageAfter target steps := rfl

namespace Plan

/-- The stages of a plan, in order. -/
def stages (p : Plan) : List Slots := p.first :: p.steps.map Prod.snd

/-- The kinds of the steps of a plan, in order. -/
def kinds (p : Plan) : List StepKind := p.steps.map Prod.fst

/-- The last stage. -/
def last (p : Plan) : Slots := stageAfter p.first p.steps

/-- The number of steps. -/
def length (p : Plan) : Nat := p.steps.length

/-! ## Reading -/

/-- The kind of step that one letter of `tags` stands for. -/
def readTag (spec tags : String) (tag : Char) : Except ShapeError StepKind :=
  match StepKind.ofTag? tag with
  | some kind => .ok kind
  | none => .error ⟨spec, .chain (.unknownTag tag tags)⟩

/-- The kinds of steps that `tags` stands for, blanks aside. -/
def readTags (spec tags : String) : Except ShapeError (List StepKind) :=
  (Text.withoutBlanks tags.toList).mapM (readTag spec tags)

/-- The plan with these stages and kinds, if there is a kind for every step. -/
def assemble (spec tags : String) (stages : List Slots) (kinds : List StepKind) :
    Except ShapeError Plan :=
  let mismatch : ShapeError := ⟨spec, .chain (.tagCount stages.length kinds.length tags)⟩
  match stages with
  | [] => .error mismatch
  | first :: rest =>
    if rest.length = kinds.length then .ok ⟨spec, first, kinds.zip rest⟩ else .error mismatch

/-- The plan that a chain and its tags stand for. -/
def read (r : Registry) (chain tags : String) : Except ShapeError Plan := do
  let stages ← Spec.readChain r chain
  let kinds ← readTags chain tags
  assemble chain tags stages kinds

end Plan

end ShapeAlgebra.Warp
