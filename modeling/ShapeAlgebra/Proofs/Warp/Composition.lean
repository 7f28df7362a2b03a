import ShapeAlgebra.Proofs.Spec.Restate
import ShapeAlgebra.Proofs.Warp.Plan
import ShapeAlgebra.Proofs.Warp.Run
import ShapeAlgebra.Warp.ShapeHost

/-!
# Warps compose

A chain can be cut at any of its stages: the steps up to that stage and the steps from it on are
the steps of two chains of their own.  Both of them can be read when the whole chain can, because a
stage is read without regard to the others, and a run of the whole is a run of the first with a run
of the second behind it.  The host may be any.
-/

namespace ShapeAlgebra.Warp

variable {r : Registry} {chain tags : String} {p : Plan}

namespace Plan

/-! ## Cutting a plan -/

/-- The plan with the chain `spec` for the first `m` steps. -/
def takeSteps (p : Plan) (spec : String) (m : Nat) : Plan := ⟨spec, p.first, p.steps.take m⟩

/-- The plan with the chain `spec` for all steps but the first `m`. -/
def dropSteps (p : Plan) (spec : String) (m : Nat) : Plan := ⟨spec, p.stageAt m, p.steps.drop m⟩

/-- The first steps have the first stages, one more than there are steps. -/
lemma stages_takeSteps (p : Plan) (spec : String) (m : Nat) :
    (p.takeSteps spec m).stages = p.stages.take (m + 1) := by
  simp [takeSteps, stages, List.map_take]

/-- The first steps have the first kinds. -/
lemma kinds_takeSteps (p : Plan) (spec : String) (m : Nat) :
    (p.takeSteps spec m).kinds = p.kinds.take m :=
  List.map_take

/-- The other steps have the stages from the cut on. -/
lemma stages_dropSteps {m : Nat} (hm : m ≤ p.length) (spec : String) :
    (p.dropSteps spec m).stages = p.stages.drop m :=
  (drop_stages hm).symm

/-- The other steps have the other kinds. -/
lemma kinds_dropSteps (p : Plan) (spec : String) (m : Nat) :
    (p.dropSteps spec m).kinds = p.kinds.drop m :=
  List.map_drop

/-- A run of a plan is a run of its first steps, and behind it one of the others. -/
lemma run_eq_takeSteps_andThen_dropSteps {τ ε : Type} (p : Plan) (h : Host τ ε) (verbose : Bool)
    (t : τ) (spec spec' : String) (m : Nat) :
    p.run h verbose t =
      ((p.takeSteps spec m).run h verbose t).andThen ((p.dropSteps spec' m).run h verbose) :=
  p.run_eq_runFirst_andThen h verbose m t

/-! ## Reading the parts -/

/-- Some of the letters of tags, written by themselves, are tags with those letters. -/
lemma tagLetters_ofList {letters : List Char} {tags : String}
    (h : letters <:+: tagLetters tags) : tagLetters (String.ofList letters) = letters := by
  unfold tagLetters
  rw [String.toList_ofList]
  exact List.filter_eq_self.2 fun c hc => (List.mem_filter.1 (h.subset hc)).2

/-- Wherever a chain that can be read is cut, its parts can be written as chains with tags. -/
theorem exists_parts (hread : read r chain tags = .ok p) {m : Nat} (hm : m ≤ p.length) :
    ∃ chain₁ chain₂ tags₁ tags₂,
      Spec.stageTexts chain₁ = (Spec.stageTexts chain).take (m + 1) ∧
      Spec.stageTexts chain₂ = (Spec.stageTexts chain).drop m ∧
      tagLetters tags₁ = (tagLetters tags).take m ∧
      tagLetters tags₂ = (tagLetters tags).drop m := by
  have hlen : m < (Spec.stageTexts chain).length := by
    rw [(Spec.readChain_eq_ok_iff.1 (read_eq_ok_iff.1 hread).2.1).length_eq, length_stages]
    exact Nat.lt_succ_of_le hm
  exact ⟨_, _, _, _, Spec.stageTexts_ofStageTexts_take chain m,
    Spec.stageTexts_ofStageTexts_drop hlen,
    tagLetters_ofList (List.take_prefix m _).isInfix,
    tagLetters_ofList (List.drop_suffix m _).isInfix⟩

/-- Stages that are read from pieces of one chain are read from the chain of those pieces. -/
lemma readChain_of_forall₂ (spec : String) {spec' : String} {stages : List Slots}
    (h : List.Forall₂ (fun side stage => Spec.readSide r .size spec side = .ok stage)
      (Spec.stageTexts spec') stages) : Spec.readChain r spec' = .ok stages :=
  Spec.readChain_eq_ok_iff.2
    (h.imp fun _ _ hside => Spec.readSide_eq_ok_of_eq_ok r .size spec spec' hside)

/-- The chain of the first stages of a chain, with the first tags, is read as the plan of the first
steps. -/
lemma read_takeSteps (hread : read r chain tags = .ok p) {m : Nat} {chain' tags' : String}
    (hchain : Spec.stageTexts chain' = (Spec.stageTexts chain).take (m + 1))
    (htags : tagLetters tags' = (tagLetters tags).take m) :
    read r chain' tags' = .ok (p.takeSteps chain' m) := by
  obtain ⟨_, hstages, hkinds⟩ := read_eq_ok_iff.1 hread
  refine read_eq_ok_iff.2 ⟨rfl, readChain_of_forall₂ chain ?_, readTags_eq_ok_iff.2 ?_⟩
  · rw [hchain, stages_takeSteps]
    exact List.forall₂_take (m + 1) (Spec.readChain_eq_ok_iff.1 hstages)
  · rw [htags, kinds_takeSteps]
    exact List.forall₂_take m (readTags_eq_ok_iff.1 hkinds)

/-- The chain of the other stages of a chain, with the other tags, is read as the plan of the other
steps. -/
lemma read_dropSteps (hread : read r chain tags = .ok p) {m : Nat} (hm : m ≤ p.length)
    {chain' tags' : String}
    (hchain : Spec.stageTexts chain' = (Spec.stageTexts chain).drop m)
    (htags : tagLetters tags' = (tagLetters tags).drop m) :
    read r chain' tags' = .ok (p.dropSteps chain' m) := by
  obtain ⟨_, hstages, hkinds⟩ := read_eq_ok_iff.1 hread
  refine read_eq_ok_iff.2 ⟨rfl, readChain_of_forall₂ chain ?_, readTags_eq_ok_iff.2 ?_⟩
  · rw [hchain, stages_dropSteps hm]
    exact List.forall₂_drop m (Spec.readChain_eq_ok_iff.1 hstages)
  · rw [htags, kinds_dropSteps]
    exact List.forall₂_drop m (readTags_eq_ok_iff.1 hkinds)

end Plan

/-! ## Composition -/

/-- A chain that can be read can be cut at any stage.  However the stages up to there and those from
there on are written as chains with their tags, and they can be, both of these can be read.  On
every host the run of the whole ends and calls as the run of the first does with the run of the
second behind it, and where the first fails the whole fails in the same way without a further
call. -/
theorem run_composes (hread : Plan.read r chain tags = .ok p) {m : Nat} (hm : m ≤ p.length) :
    (∃ chain₁ chain₂ tags₁ tags₂,
      Spec.stageTexts chain₁ = (Spec.stageTexts chain).take (m + 1) ∧
      Spec.stageTexts chain₂ = (Spec.stageTexts chain).drop m ∧
      Plan.tagLetters tags₁ = (Plan.tagLetters tags).take m ∧
      Plan.tagLetters tags₂ = (Plan.tagLetters tags).drop m) ∧
    ∀ {chain₁ chain₂ tags₁ tags₂ : String},
      Spec.stageTexts chain₁ = (Spec.stageTexts chain).take (m + 1) →
      Spec.stageTexts chain₂ = (Spec.stageTexts chain).drop m →
      Plan.tagLetters tags₁ = (Plan.tagLetters tags).take m →
      Plan.tagLetters tags₂ = (Plan.tagLetters tags).drop m →
      ∃ p₁ p₂, Plan.read r chain₁ tags₁ = .ok p₁ ∧ Plan.read r chain₂ tags₂ = .ok p₂ ∧
        ∀ {τ ε : Type} (h : Host τ ε) (verbose : Bool) (t : τ),
          (∀ t', (p₁.run h verbose t).outcome = .ok t' →
            (p.run h verbose t).outcome = (p₂.run h verbose t').outcome ∧
            (p.run h verbose t).calls =
              (p₁.run h verbose t).calls ++ (p₂.run h verbose t').calls) ∧
          ∀ fault, (p₁.run h verbose t).outcome = .error fault →
            (p.run h verbose t).outcome = .error fault ∧
            (p.run h verbose t).calls = (p₁.run h verbose t).calls := by
  refine ⟨Plan.exists_parts hread hm, fun {chain₁ chain₂ _ _} hchain₁ hchain₂ htags₁ htags₂ => ?_⟩
  refine ⟨p.takeSteps chain₁ m, p.dropSteps chain₂ m, Plan.read_takeSteps hread hchain₁ htags₁,
    Plan.read_dropSteps hread hm hchain₂ htags₂, fun h verbose t => ?_⟩
  rw [p.run_eq_takeSteps_andThen_dropSteps h verbose t chain₁ chain₂ m]
  constructor
  · intro t' hfirst
    refine ⟨?_, Run.calls_andThen_of_ok hfirst _⟩
    rw [Run.outcome_andThen, hfirst]
    rfl
  · intro fault hfirst
    rw [Run.andThen_of_error hfirst]
    exact ⟨hfirst, rfl⟩

/-- A transposition and a view, one behind the other.  Two axes are transposed and then viewed; of a
single axis already the transposition is refused, and nothing is called. -/
theorem run_composes_transposed_then_viewed :
    ∃ p p₁ p₂, Plan.read .sample "b,d -> d,b -> b,d" "p v" = .ok p ∧
      Plan.read .sample "b, d -> d, b" "p" = .ok p₁ ∧
      Plan.read .sample "d, b -> b, d" "v" = .ok p₂ ∧
      (p₁.run shapeHost false [6, 4]).outcome = .ok [4, 6] ∧
      (p.run shapeHost false [6, 4]).outcome = .ok [6, 4] ∧
      (p.run shapeHost false [6, 4]).calls = [.permute [1, 0], .view [6, 4]] ∧
      ∃ fault, (p₁.run shapeHost false [6]).outcome = .error fault ∧
        (p.run shapeHost false [6]).outcome = .error fault ∧
        (p.run shapeHost false [6]).calls = [] := by
  have hplan : ∃ p, Plan.read .sample "b,d -> d,b -> b,d" "p v" = .ok p ∧ p.length = 2 :=
    ⟨_, rfl, rfl⟩
  obtain ⟨p, hread, hlen⟩ := hplan
  have hm : 1 ≤ p.length := by
    rw [hlen]
    decide
  have hchain₁ : Spec.stageTexts "b, d -> d, b" =
      (Spec.stageTexts "b,d -> d,b -> b,d").take 2 := by decide
  have hchain₂ : Spec.stageTexts "d, b -> b, d" =
      (Spec.stageTexts "b,d -> d,b -> b,d").drop 1 := by decide
  have htags₁ : Plan.tagLetters "p" = (Plan.tagLetters "p v").take 1 := by decide
  have htags₂ : Plan.tagLetters "v" = (Plan.tagLetters "p v").drop 1 := by decide
  obtain ⟨p₁, p₂, hread₁, hread₂, h⟩ := (run_composes hread hm).2 hchain₁ hchain₂ htags₁ htags₂
  have hfirst : ∃ q, Plan.read .sample "b, d -> d, b" "p" = .ok q ∧
      (q.run shapeHost false [6, 4]).outcome = .ok [4, 6] ∧
      (q.run shapeHost false [6, 4]).calls = [.permute [1, 0]] ∧
      (∃ fault, (q.run shapeHost false [6]).outcome = .error fault) ∧
      (q.run shapeHost false [6]).calls = [] := ⟨_, rfl, rfl, rfl, ⟨_, rfl⟩, rfl⟩
  have hsecond : ∃ q, Plan.read .sample "d, b -> b, d" "v" = .ok q ∧
      (q.run shapeHost false [4, 6]).outcome = .ok [6, 4] ∧
      (q.run shapeHost false [4, 6]).calls = [.view [6, 4]] := ⟨_, rfl, rfl, rfl⟩
  obtain ⟨_, hq₁, hdone, hcalls, ⟨fault, hfailed⟩, hnone⟩ := hfirst
  obtain ⟨_, hq₂, hdone', hcalls'⟩ := hsecond
  obtain rfl := Except.ok.inj (hread₁.symm.trans hq₁)
  obtain rfl := Except.ok.inj (hread₂.symm.trans hq₂)
  obtain ⟨hwhole, hwholeCalls⟩ := (h shapeHost false [6, 4]).1 _ hdone
  obtain ⟨hrefused, hrefusedCalls⟩ := (h shapeHost false [6]).2 fault hfailed
  rw [hcalls, hcalls'] at hwholeCalls
  exact ⟨p, p₁, p₂, hread, hread₁, hread₂, hdone, hwhole.trans hdone', hwholeCalls, fault, hfailed,
    hrefused, hrefusedCalls.trans hnone⟩

end ShapeAlgebra.Warp
