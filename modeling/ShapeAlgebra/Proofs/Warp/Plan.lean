import ShapeAlgebra.Proofs.Expr.Over
import ShapeAlgebra.Proofs.Spec.Arrows
import ShapeAlgebra.Proofs.Spec.Numbering
import ShapeAlgebra.Warp.Plan

/-!
# Plans that can be read

A plan is read from a chain and its tags exactly when each of its stages is what a piece of the
chain between two arrows reads as, and each of its kinds is what a letter among the tags stands
for.  So all that is known about the sides of a spec is known about the stages of a plan: their
anonymous slots are numbered, and their expressions are over the registry.
-/

namespace ShapeAlgebra

variable {r : Registry}

/-- A registry for examples: a batch `b` of six and a depth `d` of four. -/
def Registry.sample : Registry :=
  Registry.registerAll {} [⟨"Batch", "b", some 6⟩, ⟨"Depth", "d", some 4⟩]

namespace Warp.Plan

variable {chain tags : String} {p : Plan}

/-! ## Tags -/

/-- The letters of `tags`, one for each step. -/
def tagLetters (tags : String) : List Char := Text.withoutBlanks tags.toList

/-- A tag is read as the kind that it stands for. -/
lemma readTag_eq_ok_iff {tag : Char} {kind : StepKind} :
    readTag chain tags tag = .ok kind ↔ StepKind.ofTag? tag = some kind := by
  unfold readTag
  cases StepKind.ofTag? tag <;> simp

/-- Tags are read letter by letter. -/
lemma readTags_eq_ok_iff {kinds : List StepKind} :
    readTags chain tags = .ok kinds ↔
      List.Forall₂ (fun tag kind => StepKind.ofTag? tag = some kind) (tagLetters tags) kinds := by
  unfold readTags
  rw [mapM_eq_ok_iff]
  simp only [readTag_eq_ok_iff]
  rfl

/-! ## Plans -/

@[simp]
lemma length_stages (p : Plan) : p.stages.length = p.length + 1 := by
  simp [stages, length]

@[simp]
lemma length_kinds (p : Plan) : p.kinds.length = p.length := by
  simp [kinds, length]

/-- The steps of a plan are its kinds, each with a stage behind the first. -/
lemma zip_kinds_stages (p : Plan) : p.kinds.zip p.stages.tail = p.steps :=
  (List.zip_of_prod rfl rfl).symm

/-- A plan is assembled from its stages and its kinds. -/
lemma assemble_eq_ok_iff {stages : List Slots} {kinds : List StepKind} :
    assemble chain tags stages kinds = .ok p ↔
      p.spec = chain ∧ p.stages = stages ∧ p.kinds = kinds := by
  constructor
  · intro h
    cases stages with
    | nil => cases h
    | cons first rest =>
      simp only [assemble] at h
      split at h
      · rename_i hlen
        obtain rfl := Except.ok.inj h
        refine ⟨rfl, ?_, ?_⟩
        · change first :: (kinds.zip rest).map Prod.snd = first :: rest
          rw [List.map_snd_zip hlen.le]
        · exact List.map_fst_zip hlen.ge
      · cases h
  · rintro ⟨rfl, rfl, rfl⟩
    have hlen : (p.steps.map Prod.snd).length = p.kinds.length := by
      simp [kinds]
    have hsteps : p.kinds.zip (p.steps.map Prod.snd) = p.steps := p.zip_kinds_stages
    simp only [assemble, stages, if_pos hlen, hsteps]

/-- What it takes for a plan to be read. -/
theorem read_eq_ok_iff :
    read r chain tags = .ok p ↔
      p.spec = chain ∧ Spec.readChain r chain = .ok p.stages ∧
        readTags chain tags = .ok p.kinds := by
  constructor
  · intro h
    obtain ⟨stages, hstages, hrest⟩ := bind_eq_ok_iff.1 h
    obtain ⟨kinds, hkinds, hassemble⟩ := bind_eq_ok_iff.1 hrest
    obtain ⟨hspec, rfl, rfl⟩ := assemble_eq_ok_iff.1 hassemble
    exact ⟨hspec, hstages, hkinds⟩
  · rintro ⟨hspec, hstages, hkinds⟩
    refine bind_eq_ok_iff.2 ⟨p.stages, hstages, bind_eq_ok_iff.2 ⟨p.kinds, hkinds, ?_⟩⟩
    exact assemble_eq_ok_iff.2 ⟨hspec, rfl, rfl⟩

/-! ## Stages -/

/-- Every stage of a plan is read from a piece of the chain. -/
lemma exists_readSide_of_mem_stages (h : read r chain tags = .ok p) {stage : Slots}
    (hstage : stage ∈ p.stages) : ∃ side, Spec.readSide r .size chain side = .ok stage := by
  have hstages := Spec.readChain_eq_ok_iff.1 (read_eq_ok_iff.1 h).2.1
  obtain ⟨side, _, hside⟩ := exists_of_mem_right hstages hstage
  exact ⟨side, hside⟩

/-- The stages of a plan that is read are numbered. -/
lemma numbered_of_read (h : read r chain tags = .ok p) {stage : Slots}
    (hstage : stage ∈ p.stages) : stage.Numbered := by
  obtain ⟨side, hside⟩ := exists_readSide_of_mem_stages h hstage
  exact Spec.numbered_of_readSide hside

/-- The stages of a plan that is read are over its registry. -/
lemma over_of_read (h : read r chain tags = .ok p) {stage : Slots}
    (hstage : stage ∈ p.stages) : stage.Over r := by
  obtain ⟨side, hside⟩ := exists_readSide_of_mem_stages h hstage
  exact Spec.over_of_readSide hside

end Warp.Plan

end ShapeAlgebra
