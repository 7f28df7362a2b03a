import ShapeAlgebra.Proofs.Outcome
import ShapeAlgebra.Spec.Basic

/-!
# Parts of a chain

The texts of the stages of a chain, and chains made of such texts.  Joined by arrows, the first
texts of a chain, or the last ones, make a chain that is cut into the same texts again, since what
is joined is a prefix or a suffix of the text that was cut.  So every part of a chain can be
written as a chain of its own.
-/

namespace ShapeAlgebra.Spec

/-- The texts of the stages of the chain `spec`. -/
def stageTexts (spec : String) : List (List Char) :=
  cutArrows (Text.withoutBlanks spec.toList)

/-- The stages of a chain are read off their texts. -/
lemma readChain_eq_ok_iff {r : Registry} {spec : String} {stages : List Slots} :
    readChain r spec = .ok stages ↔
      List.Forall₂ (fun side stage => readSide r .size spec side = .ok stage) (stageTexts spec)
        stages :=
  mapM_eq_ok_iff

/-- The chain whose stages have the texts `texts`. -/
def ofStageTexts (texts : List (List Char)) : String :=
  String.ofList (['-', '>'].intercalate texts)

/-- A text made of characters of `spec` that are not blank has no blanks. -/
lemma stageTexts_ofStageTexts {spec : String} {texts : List (List Char)}
    (h : ['-', '>'].intercalate texts <:+: Text.withoutBlanks spec.toList) :
    stageTexts (ofStageTexts texts) = cutArrows (['-', '>'].intercalate texts) := by
  unfold stageTexts ofStageTexts
  rw [String.toList_ofList]
  congr 1
  refine List.filter_eq_self.2 fun c hc => ?_
  exact (List.mem_filter.1 (h.subset hc)).2

/-! ## The first texts -/

/-- Behind a character, the cuts are those of the rest, unless the two make an arrow. -/
lemma cutArrows_cons {c : Char} {cs : List Char} (h : c = '-' → cs.head? ≠ some '>') :
    cutArrows (c :: cs) = (cutArrows cs).modifyHead (c :: ·) := by
  rw [cutArrows]
  rintro cs' rfl rfl
  exact h rfl rfl

/-- The first parts joined are a prefix of all parts joined. -/
lemma intercalate_take_prefix {α : Type} (separator : List α) (m : Nat) (parts : List (List α)) :
    separator.intercalate (parts.take m) <+: separator.intercalate parts := by
  induction m generalizing parts with
  | zero => exact List.nil_prefix
  | succ m ih =>
    match parts with
    | [] => exact List.nil_prefix
    | part :: rest =>
      by_cases hrest : rest.take m = []
      · rw [List.take_succ_cons, hrest, List.intercalate_singleton]
        cases rest <;> simp
      · have hne : rest ≠ [] := fun hnil => hrest (by rw [hnil, List.take_nil])
        rw [List.take_succ_cons, List.intercalate_cons_of_ne_nil hrest,
          List.intercalate_cons_of_ne_nil hne]
        exact (List.prefix_append_right_inj _).2 (ih rest)

/-- The first parts of a text, joined again, are cut into the same parts. -/
lemma cutArrows_intercalate_take (m : Nat) (cs : List Char) :
    cutArrows (['-', '>'].intercalate ((cutArrows cs).take (m + 1))) =
      (cutArrows cs).take (m + 1) := by
  induction cs using cutArrows.induct generalizing m with
  | case1 =>
    rw [cutArrows, List.take_succ_cons, List.take_nil, List.intercalate_singleton, cutArrows]
  | case2 cs ih =>
    rw [cutArrows, List.take_succ_cons]
    cases m with
    | zero => rfl
    | succ m =>
      have hne : (cutArrows cs).take (m + 1) ≠ [] := by
        simpa using cutArrows_ne_nil cs
      rw [List.intercalate_cons_of_ne_nil hne]
      exact congrArg ([] :: ·) (ih m)
  | case3 c cs hcs ih =>
    have hne : (cutArrows cs).take (m + 1) ≠ [] := by
      simpa using cutArrows_ne_nil cs
    have htake : ((cutArrows cs).modifyHead (c :: ·)).take (m + 1) =
        ((cutArrows cs).take (m + 1)).modifyHead (c :: ·) := by
      cases cutArrows cs <;> rfl
    rw [cutArrows.eq_3 c cs hcs, htake, intercalate_modifyHead_cons hne, cutArrows_cons, ih m]
    -- What follows `c` in the joined text is what follows it in the whole.
    intro hc hhead
    obtain ⟨next, hnext⟩ := List.head?_eq_some_iff.1 hhead
    obtain ⟨after, hafter⟩ := intercalate_take_prefix ['-', '>'] (m + 1) (cutArrows cs)
    rw [hnext, intercalate_cutArrows] at hafter
    exact hcs (next ++ after) hc hafter.symm

/-! ## The last texts -/

/-- The last parts joined are a suffix of all parts joined. -/
lemma intercalate_drop_suffix {α : Type} (separator : List α) (m : Nat) (parts : List (List α)) :
    separator.intercalate (parts.drop m) <:+ separator.intercalate parts := by
  induction m generalizing parts with
  | zero => exact List.suffix_refl _
  | succ m ih =>
    match parts with
    | [] => exact List.suffix_refl _
    | part :: rest =>
      by_cases hrest : rest = []
      · rw [hrest, List.drop_succ_cons, List.drop_nil]
        exact List.nil_suffix
      · rw [List.drop_succ_cons, List.intercalate_cons_of_ne_nil hrest]
        exact (ih rest).trans (List.suffix_append _ _)

/-- The last parts of a text, joined again, are cut into the same parts. -/
lemma cutArrows_intercalate_drop {m : Nat} {cs : List Char} (hm : m < (cutArrows cs).length) :
    cutArrows (['-', '>'].intercalate ((cutArrows cs).drop m)) = (cutArrows cs).drop m := by
  induction cs using cutArrows.induct generalizing m with
  | case1 =>
    obtain rfl : m = 0 := by simpa [cutArrows] using hm
    rw [List.drop_zero, intercalate_cutArrows]
  | case2 cs ih =>
    cases m with
    | zero => rw [List.drop_zero, intercalate_cutArrows]
    | succ m =>
      rw [cutArrows, List.length_cons] at hm
      rw [cutArrows, List.drop_succ_cons]
      exact ih (Nat.lt_of_succ_lt_succ hm)
  | case3 c cs hcs ih =>
    cases m with
    | zero => rw [List.drop_zero, intercalate_cutArrows]
    | succ m =>
      -- the first character is in the first part, which is dropped
      have hdrop : ((cutArrows cs).modifyHead (c :: ·)).drop (m + 1) =
          (cutArrows cs).drop (m + 1) := by
        cases cutArrows cs <;> rfl
      rw [cutArrows.eq_3 c cs hcs, List.length_modifyHead] at hm
      rw [cutArrows.eq_3 c cs hcs, hdrop]
      exact ih hm

/-! ## Parts of a chain -/

/-- The first stages of a chain can be written as a chain. -/
theorem stageTexts_ofStageTexts_take (spec : String) (m : Nat) :
    stageTexts (ofStageTexts ((stageTexts spec).take (m + 1))) =
      (stageTexts spec).take (m + 1) := by
  rw [stageTexts_ofStageTexts]
  · exact cutArrows_intercalate_take m _
  · have h := intercalate_take_prefix ['-', '>'] (m + 1) (stageTexts spec)
    rw [stageTexts, intercalate_cutArrows] at h
    exact h.isInfix

/-- The last stages of a chain can be written as a chain. -/
theorem stageTexts_ofStageTexts_drop {spec : String} {m : Nat}
    (hm : m < (stageTexts spec).length) :
    stageTexts (ofStageTexts ((stageTexts spec).drop m)) = (stageTexts spec).drop m := by
  rw [stageTexts_ofStageTexts]
  · exact cutArrows_intercalate_drop hm
  · have h := intercalate_drop_suffix ['-', '>'] m (stageTexts spec)
    rw [stageTexts, intercalate_cutArrows] at h
    exact h.isInfix

end ShapeAlgebra.Spec
