import ShapeAlgebra.Proofs.Resolve.Refusal
import ShapeAlgebra.Proofs.Warp.Plan
import ShapeAlgebra.Proofs.Warp.Run
import ShapeAlgebra.Warp.ShapeHost

/-!
# Malformed chains

What is wrong with the text of a chain is found while its plan is read, before the host is asked for
anything, with one exception.  A stage that leaves an axis to be inferred is a good target of a
view, and a bad source of the step behind it unless that is a permutation.  The plan is read all the
same, and the error comes up when that step is resolved, behind the calls of all steps in front of
it.  The host may be any.
-/

namespace ShapeAlgebra.Warp

variable {τ ε : Type} {h : Host τ ε} {verbose : Bool} {kind : StepKind} {source target : Slots}
  {shape : List Size} {t : τ} {e : ShapeError}

/-- What a step refuses before the host is called. -/
lemma refusals_resolve :
    Meets (resolve kind source target shape) (fun _ => True)
      (Resolve.TextualOnlyIf (kind ≠ .permute ∧ ∃ slot ∈ source, slot.isInferred = true)) := by
  have hkind (hne : kind ≠ .permute) (fault : Fault ShapeError)
      (hfault : Resolve.TextualOnlyIf (∃ slot ∈ source, slot.isInferred = true) fault) :
      Resolve.TextualOnlyIf (kind ≠ .permute ∧ ∃ slot ∈ source, slot.isInferred = true) fault :=
    hfault.imp (fun e he htextual => (he htextual).imp_right fun hslot => ⟨hne, hslot⟩) fun h => h
  cases kind with
  | view => exact Meets.map (Resolve.refusals_view.imp (fun _ h => h) (hkind (by decide)))
  | permute =>
    have hrank : Meets (Checked.ofExcept (checkRank (stepSpec source target) source shape))
        (fun _ => True) (Resolve.TextualOnlyIf
          (StepKind.permute ≠ .permute ∧ ∃ slot ∈ source, slot.isInferred = true)) := by
      refine Meets.ofExcept ?_
      unfold checkRank
      split
      · exact trivial
      · exact Resolve.textualOnlyIf_of_isTextual rfl
    exact hrank.bind fun _ _ => Meets.map Resolve.refusals_permute
  | expand =>
    exact Meets.map (Resolve.refusals_expandPositional.imp (fun _ h => h) (hkind (by decide)))
  | align => exact Meets.map (Resolve.refusals_align.imp (fun _ h => h) (hkind (by decide)))

/-- A step that fails with an error of a shape could not be resolved, and made no call. -/
lemma resolve_eq_error_of_runStep
    (hstep : (runStep h verbose kind source target t).outcome = .error (.refusal (.shape e))) :
    resolve kind source target (h.shape t) = .error (.refusal e) ∧
      (runStep h verbose kind source target t).calls = [] := by
  cases hresolve : resolve kind source target (h.shape t) with
  | ok call =>
    rw [outcome_runStep_of_resolve_eq_ok hresolve] at hstep
    cases hperform : h.perform t call with
    | ok t' =>
      rw [hperform] at hstep
      cases hstep
    | error fault =>
      rw [hperform] at hstep
      cases fault <;> cases hstep
  | error fault =>
    rw [runStep_of_resolve_eq_error hresolve] at hstep ⊢
    refine ⟨?_, rfl⟩
    cases fault with
    | refusal e' =>
      injection hstep with hfault
      injection hfault with hcause
      injection hcause with he
      rw [he]
    | trap _ => cases hstep

/-- Steps that fail for what was written have come to a stage that leaves an axis to be inferred,
and have made a call for every step up to there. -/
theorem exists_inferred_of_runSteps {steps : List (StepKind × Slots)}
    (hrun : (runSteps h verbose source steps t).outcome = .error (.refusal (.shape e)))
    (htextual : e.kind.isTextual = true) :
    ∃ m stage kind, (source :: steps.map Prod.snd)[m]? = some stage ∧
      (∃ slot ∈ stage, slot.isInferred = true) ∧ (steps.map Prod.fst)[m]? = some kind ∧
      kind ≠ .permute ∧ e.cause = .unreadable .inferredSource ∧
      (runSteps h verbose source steps t).calls.length = m := by
  induction steps generalizing source t with
  | nil => cases hrun
  | cons step steps ih =>
    obtain ⟨kind, target⟩ := step
    rw [runSteps_cons] at hrun ⊢
    cases hstep : (runStep h verbose kind source target t).outcome with
    | error fault =>
      rw [Run.andThen_of_error hstep] at hrun ⊢
      -- the first step fails: it has made no call, and what is wrong is in its source
      obtain ⟨hresolve, hcalls⟩ := resolve_eq_error_of_runStep hrun
      obtain ⟨hcause, hne, hslot⟩ := refusals_resolve.bad_of_eq_error hresolve htextual
      exact ⟨0, source, kind, rfl, hslot, rfl, hne, hcause, by rw [hcalls]; rfl⟩
    | ok current =>
      rw [Run.outcome_andThen, hstep] at hrun
      obtain ⟨m, stage, kind', hstage, hslot, hkind, hne, hcause, hcalls⟩ := ih hrun
      -- the first step has made its call, and what is wrong is further on
      obtain ⟨call, _, _, hcall⟩ := runStep_eq_ok hstep
      refine ⟨m + 1, stage, kind', hstage, hslot, hkind, hne, hcause, ?_⟩
      rw [Run.calls_andThen_of_ok hstep, hcall, List.length_append, hcalls, List.length_singleton,
        Nat.add_comm]

/-- A warp that fails because a text cannot be read, a symbol is not declared, or the tags do not go
with the chain has called no host operation, unless the error is that of a step, but for
permutations, from a stage behind the first that leaves an axis to be inferred.  Then the host has
been called for the steps in front of that one. -/
theorem calls_of_malformed {r : Registry} {chain tags : String}
    (hrun : (run r h chain tags verbose t).outcome = .error (.refusal (.shape e)))
    (hkind : e.kind = .unreadable ∨ e.kind = .notDeclared ∨ e.kind = .chain) :
    (run r h chain tags verbose t).calls = [] ∨
      ∃ p m stage kind, Plan.read r chain tags = .ok p ∧ 0 < m ∧ p.stages[m]? = some stage ∧
        (∃ slot ∈ stage, slot.isInferred = true) ∧ p.kinds[m]? = some kind ∧ kind ≠ .permute ∧
        e.cause = .unreadable .inferredSource ∧
        (run r h chain tags verbose t).calls.length = m := by
  have htextual : e.kind.isTextual = true := by
    rcases hkind with hkind | hkind | hkind <;> rw [hkind] <;> rfl
  unfold run at hrun ⊢
  cases hread : Plan.read r chain tags with
  | error _ => exact .inl rfl
  | ok p =>
    rw [hread] at hrun
    obtain ⟨m, stage, kind, hstage, hslot, hstepKind, hne, hcause, hcalls⟩ :=
      exists_inferred_of_runSteps hrun htextual
    rcases Nat.eq_zero_or_pos m with rfl | hm
    · exact .inl (List.eq_nil_of_length_eq_zero hcalls)
    · exact .inr ⟨p, m, stage, kind, rfl, hm, hstage, hslot, hstepKind, hne, hcause, hcalls⟩

/-- An axis to be inferred in the first stage is found before the host is called. -/
theorem calls_of_malformed_first_stage :
    ∃ e, (run .sample shapeHost "b,-1 -> b,d" "v" false [6, 4]).outcome =
        .error (.refusal (.shape e)) ∧ e.kind = .unreadable ∧
      (run .sample shapeHost "b,-1 -> b,d" "v" false [6, 4]).calls = [] := by
  have hrun : ∃ e, (run .sample shapeHost "b,-1 -> b,d" "v" false [6, 4]).outcome =
      .error (.refusal (.shape e)) ∧ e.kind = .unreadable := ⟨_, rfl, rfl⟩
  obtain ⟨e, hfail, hkind⟩ := hrun
  refine ⟨e, hfail, hkind, ?_⟩
  rcases calls_of_malformed hfail (.inl hkind) with
    hcalls | ⟨p, m, _, _, hread, hm, _, _, hstepKind, _⟩
  · exact hcalls
  · have hkinds : (Plan.read .sample "b,-1 -> b,d" "v").map Plan.kinds = .ok [.view] := rfl
    rw [hread] at hkinds
    obtain ⟨m, rfl⟩ := Nat.exists_eq_add_of_lt hm
    rw [Except.ok.inj hkinds] at hstepKind
    simp at hstepKind

/-- An axis to be inferred in the second stage is found when the host has been called for the
first step. -/
theorem malformed_behind_a_call :
    ∃ e, (run .sample shapeHost "b,d -> b,-1 -> d,b" "vv" false [6, 4]).outcome =
        .error (.refusal (.shape e)) ∧ e.kind = .unreadable ∧
      (run .sample shapeHost "b,d -> b,-1 -> d,b" "vv" false [6, 4]).calls = [.view [6, -1]] :=
  ⟨_, rfl, rfl, rfl⟩

end ShapeAlgebra.Warp
