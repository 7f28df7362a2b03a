import ShapeAlgebra.Proofs.Resolve.Fitting
import ShapeAlgebra.Proofs.Warp.Plan
import ShapeAlgebra.Proofs.Warp.Run
import ShapeAlgebra.Proofs.Warp.ShapeHost

/-!
# The stages of a warp are annotations

Along views and permutations on the host of shapes, a shape that fits the first stage becomes one
that fits the last.  The invariant of the run is that the shape fits the stage and that the stage is
over the registry.  The second half is what makes it survive: a size is taken from an axis with the
same expression, and only over one registry do expressions that are the same have the same value.
-/

namespace ShapeAlgebra.Warp

variable {r : Registry} {verbose : Bool} {source target : Slots} {shape out : List Size}

/-- Behind a view the target stage fits. -/
lemma fits_of_runStep_view (hsource : source.Over r) (htarget : target.Over r)
    (hfits : source.fits shape = true)
    (hstep : (runStep shapeHost verbose .view source target shape).outcome = .ok out) :
    target.fits out = true := by
  obtain ⟨call, hresolve, hperform, _⟩ := runStep_eq_ok hstep
  obtain ⟨sizes, hview, rfl⟩ := map_eq_ok_iff.1 hresolve
  obtain ⟨_, hsizes, _⟩ := Resolve.meets_view.post_of_eq_ok hview
  obtain ⟨_, _, hout⟩ := ShapeHost.meets_view.post_of_eq_ok hperform
  exact Resolve.fits_of_hasSize hsource htarget hfits hsizes hout

/-- Behind a permutation the target stage fits. -/
lemma fits_of_runStep_permute (hsource : source.Over r) (htarget : target.Over r)
    (hnum : target.Numbered) (hfits : source.fits shape = true)
    (hstep : (runStep shapeHost verbose .permute source target shape).outcome = .ok out) :
    target.fits out = true := by
  obtain ⟨call, hresolve, hperform, _⟩ := runStep_eq_ok hstep
  obtain ⟨_, _, hrest⟩ := bind_eq_ok_iff.1 hresolve
  obtain ⟨axes, hpermute, rfl⟩ := map_eq_ok_iff.1 hrest
  obtain ⟨_, haxes, _⟩ := (Resolve.meets_permute hnum).post_of_eq_ok hpermute
  obtain ⟨_, hout⟩ := ShapeHost.meets_permute.post_of_eq_ok hperform
  exact Resolve.fits_of_comesFrom hsource htarget hfits haxes hout

/-- Over a registry, a completed view or permutation leads from a shape that fits its source to one
that fits its target. -/
lemma fits_of_runStep {kind : StepKind} (hkind : kind = .view ∨ kind = .permute)
    (hsource : source.Over r) (htarget : target.Over r) (hnum : target.Numbered)
    (hfits : source.fits shape = true)
    (hstep : (runStep shapeHost verbose kind source target shape).outcome = .ok out) :
    target.fits out = true := by
  rcases hkind with rfl | rfl
  · exact fits_of_runStep_view hsource htarget hfits hstep
  · exact fits_of_runStep_permute hsource htarget hnum hfits hstep

/-- Over a registry, views and permutations that are completed lead from a shape that fits the
first stage to one that fits the last. -/
theorem fits_of_runSteps {steps : List (StepKind × Slots)}
    (hkinds : ∀ step ∈ steps, step.1 = .view ∨ step.1 = .permute)
    (hover : ∀ step ∈ steps, step.2.Over r) (hnum : ∀ step ∈ steps, step.2.Numbered)
    (hsource : source.Over r) (hfits : source.fits shape = true)
    (hrun : (runSteps shapeHost verbose source steps shape).outcome = .ok out) :
    (stageAfter source steps).fits out = true := by
  induction steps generalizing source shape with
  | nil =>
    obtain rfl := Except.ok.inj hrun
    exact hfits
  | cons step steps ih =>
    obtain ⟨kind, target⟩ := step
    obtain ⟨current, hstep, hrest, _⟩ := runSteps_cons_eq_ok hrun
    have hmem : (kind, target) ∈ (kind, target) :: steps := List.mem_cons_self
    have hfits' : target.fits current = true :=
      fits_of_runStep (hkinds _ hmem) hsource (hover _ hmem) (hnum _ hmem) hfits hstep
    exact ih (fun s hs => hkinds s (List.mem_cons_of_mem _ hs))
      (fun s hs => hover s (List.mem_cons_of_mem _ hs))
      (fun s hs => hnum s (List.mem_cons_of_mem _ hs)) (hover _ hmem) hfits' hrest

/-- A plan of views and permutations that can be read and run leads from a shape that fits its
first stage to one that fits its last.  If these are the same stage, and it is made of expressions
alone, the run comes back to the shape that it started from. -/
theorem run_keeps_annotation {chain tags : String} {p : Plan}
    (hread : Plan.read r chain tags = .ok p)
    (hkinds : ∀ kind ∈ p.kinds, kind = .view ∨ kind = .permute)
    (hfirst : p.first.fits shape = true)
    (hrun : (p.run shapeHost verbose shape).outcome = .ok out) :
    p.last.fits out = true ∧
      (p.last = p.first → (∀ slot ∈ p.first, ∃ e, slot = .expr e) → out = shape) := by
  have hlast : p.last.fits out = true := by
    refine fits_of_runSteps (fun step hstep => ?_) (fun step hstep => ?_) (fun step hstep => ?_)
      (Plan.over_of_read hread List.mem_cons_self) hfirst hrun
    · exact hkinds step.1 (List.mem_map_of_mem hstep)
    · exact Plan.over_of_read hread (Plan.mem_stages_of_mem_steps hstep)
    · exact Plan.numbered_of_read hread (Plan.mem_stages_of_mem_steps hstep)
  refine ⟨hlast, fun hsame hexpr => ?_⟩
  rw [hsame] at hlast
  exact Slots.eq_of_fits hexpr hlast hfirst

/-- From a batch and a depth through their product and back. -/
theorem run_keeps_annotation_round_trip :
    ∃ p out, Plan.read .sample "b,d -> d,b -> b*d -> b,d" "p v v" = .ok p ∧
      p.first.fits [6, 4] = true ∧ (p.run shapeHost false [6, 4]).outcome = .ok out ∧
      p.last.fits out = true ∧ out = [6, 4] := by
  have hplan : ∃ p, Plan.read .sample "b,d -> d,b -> b*d -> b,d" "p v v" = .ok p ∧
      p.kinds = [.permute, .view, .view] ∧ p.first.fits [6, 4] = true ∧ p.last = p.first ∧
      (∀ slot ∈ p.first, slot.expr?.isSome) ∧
      (p.run shapeHost false [6, 4]).outcome = .ok [6, 4] :=
    ⟨_, rfl, rfl, by decide, rfl, by decide, rfl⟩
  obtain ⟨p, hread, hkinds, hfirst, hsame, hexpr, hrun⟩ := hplan
  have hviews : ∀ kind ∈ p.kinds, kind = .view ∨ kind = .permute := by
    rw [hkinds]
    decide
  have hslots : ∀ slot ∈ p.first, ∃ e, slot = .expr e := by
    intro slot hslot
    cases slot with
    | expr e => exact ⟨e, rfl⟩
    | anonymous _ => cases hexpr _ hslot
    | inferred => cases hexpr _ hslot
  obtain ⟨hlast, hback⟩ := run_keeps_annotation hread hviews hfirst hrun
  exact ⟨p, [6, 4], hread, hfirst, hrun, hlast, hback hsame hslots⟩

end ShapeAlgebra.Warp
