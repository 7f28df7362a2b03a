import ShapeAlgebra.Proofs.Spec.Cutting
import ShapeAlgebra.Proofs.Spec.Naming

/-!
# Compact and explicit spellings

A text of plain characters, which are neither blank nor commas nor arithmetic, has a slot for each
of them, and so has the text in which commas stand between them.  The two are cut in different ways,
and yet into the same texts, so that they are read as the same slots.  Or else they fail for the
same cause, which is reported for the spelling that was read.
-/

namespace ShapeAlgebra.Spec

variable {r : Registry} {mode : NumberMode} {spec : String} {cs : List Char} {c : Char}

/-- A character that neither is blank nor takes part in cutting a side. -/
def PlainChar (c : Char) : Prop :=
  Text.isBlank c = false ∧ c ∉ [',', '+', '-', '*', '/', '(', ')']

instance (c : Char) : Decidable (PlainChar c) := inferInstanceAs (Decidable (_ ∧ _))

/-- The characters of a text with commas between them. -/
def commaSeparated (spec : String) : String := ",".intercalate (spec.toList.map String.singleton)

namespace PlainChar

/-- A plain character is no comma. -/
lemma ne_comma (h : PlainChar c) : c ≠ ',' := by
  rintro rfl
  exact h.2 (by decide)

/-- A plain character is no sign of arithmetic. -/
lemma isArithmetic (h : PlainChar c) : isArithmetic c = false := by
  rw [Spec.isArithmetic, List.contains_eq_mem, decide_eq_false_iff_not]
  exact fun hmem => h.2 (List.mem_cons_of_mem ',' hmem)

/-- A plain character by itself cannot be cut and opens nothing. -/
lemma uncut (h : PlainChar c) : Uncut 0 [c] ∧ depthBehind 0 [c] = 0 := by
  have hopening : c ≠ '(' := by
    rintro rfl
    exact h.2 (by decide)
  have hclosing : c ≠ ')' := by
    rintro rfl
    exact h.2 (by decide)
  have hdepth : depthAfter 0 c = 0 := by rw [depthAfter, if_neg hopening, if_neg hclosing]
  exact ⟨uncut_cons_iff.2 ⟨fun hcomma => h.ne_comma hcomma.1, uncut_nil _⟩, hdepth⟩

end PlainChar

/-! ## Sides of plain characters -/

/-- A text of plain characters is compact. -/
lemma formOf_of_plain (h : ∀ c ∈ cs, PlainChar c) : formOf cs = .compact := by
  refine if_neg (Bool.not_eq_true _ ▸ List.any_eq_false.2 fun c hc => ?_)
  simp [(h c hc).ne_comma, (h c hc).isArithmetic]

/-- A text of plain characters is cut into its characters. -/
lemma cutSide_of_plain (h : ∀ c ∈ cs, PlainChar c) : cutSide cs = cs.map fun c => [c] := by
  have hcomma : cs.contains ',' = false := by
    rw [List.contains_eq_mem, decide_eq_false_iff_not]
    exact fun hmem => (h ',' hmem).ne_comma rfl
  have harithmetic : cs.any isArithmetic = false := by
    refine List.any_eq_false.2 fun c hc => ?_
    rw [(h c hc).isArithmetic]
    exact Bool.false_ne_true
  rw [cutSide, hcomma, harithmetic, if_neg Bool.false_ne_true, if_neg Bool.false_ne_true]

/-- The characters of a text, with a comma between any two of them. -/
lemma toList_commaSeparated (spec : String) :
    (commaSeparated spec).toList = [','].intercalate (spec.toList.map fun c => [c]) := by
  rw [commaSeparated, String.toList_intercalate, List.map_map]
  congr 1
  exact List.map_congr_left fun c _ => String.toList_singleton c

/-- Between two characters or more there is a comma. -/
lemma comma_mem_intercalate (h : 2 ≤ cs.length) :
    ',' ∈ [','].intercalate (cs.map fun c => [c]) := by
  obtain _ | ⟨first, _ | ⟨second, cs⟩⟩ := cs
  · cases h
  · exact absurd h (by simp)
  · rw [List.map_cons, List.map_cons, List.intercalate_cons_cons]
    exact List.mem_append_left _ (List.mem_append_right _ (List.mem_singleton_self ','))

/-- What stands in characters with commas between them is one of the characters or a comma. -/
lemma mem_of_mem_intercalate (h : c ∈ [','].intercalate (cs.map fun c => [c])) :
    c ∈ cs ∨ c = ',' := by
  induction cs with
  | nil => exact absurd h List.not_mem_nil
  | cons first cs ih =>
    by_cases hrest : cs = []
    · rw [hrest, List.map_singleton, List.intercalate_singleton, List.mem_singleton] at h
      exact .inl (h ▸ List.mem_cons_self)
    · rw [List.map_cons, List.intercalate_cons_of_ne_nil (mt List.map_eq_nil_iff.1 hrest),
        List.mem_append, List.mem_append, List.mem_singleton, List.mem_singleton] at h
      rcases h with (rfl | hcomma) | hmem
      · exact .inl List.mem_cons_self
      · exact .inr hcomma
      · exact (ih hmem).imp_left (List.mem_cons_of_mem first)

/-- Plain characters with commas between them are cut into the characters. -/
lemma cutSide_intercalate (h : ∀ c ∈ cs, PlainChar c) (hlength : 2 ≤ cs.length) :
    cutSide ([','].intercalate (cs.map fun c => [c])) = cs.map fun c => [c] := by
  have hne : (cs.map fun c => [c]) ≠ [] := by
    rw [Ne, List.map_eq_nil_iff]
    rintro rfl
    cases hlength
  rw [cutSide_of_comma (comma_mem_intercalate hlength), cutCommas_intercalate hne]
  exact List.forall_mem_map.2 fun c hc => (h c hc).uncut

/-! ## Whole texts -/

/-- A text without the tail of an arrow has no arrow. -/
lemma cutFirstArrow?_eq_none (h : '-' ∉ cs) : cutFirstArrow? cs = none := by
  induction cs with
  | nil => rfl
  | cons c cs ih =>
    obtain ⟨hc, hcs⟩ := not_or.1 (mt List.mem_cons.2 h)
    rw [cutFirstArrow?.eq_3 c cs fun _ hdash => absurd hdash.symm hc, ih hcs, Option.map_none]

/-- A text without blanks and arrows is the text of a shape. -/
lemma read_of_one_side (hblank : ∀ c ∈ spec.toList, Text.isBlank c = false)
    (hdash : '-' ∉ spec.toList) :
    read r mode spec =
      (readSide r mode spec spec.toList).map (.shape (formOf spec.toList)) := by
  have htext : Text.withoutBlanks spec.toList = spec.toList :=
    List.filter_eq_self.2 fun c hc => by rw [hblank c hc, Bool.not_false]
  rw [read, htext, cutFirstArrow?_eq_none hdash]
  exact bind_ok_eq_map _ _

/-- A text of plain characters is read as a compact shape, and with commas between them as an
explicit one, both from the slots of the same texts. -/
lemma read_plain (r : Registry) (mode : NumberMode) (h : ∀ c ∈ spec.toList, PlainChar c)
    (hlength : 2 ≤ spec.length) :
    (read r mode spec = (readSlots r mode spec 0 (spec.toList.map fun c => [c])).map
        (.shape .compact)) ∧
      read r mode (commaSeparated spec) =
        (readSlots r mode (commaSeparated spec) 0 (spec.toList.map fun c => [c])).map
          (.shape .explicit) := by
  have hdash : '-' ∉ spec.toList := fun hmem => (h '-' hmem).2 (by decide)
  constructor
  · rw [read_of_one_side (fun c hc => (h c hc).1) hdash, formOf_of_plain h, readSide,
      cutSide_of_plain h]
  · have hmem {c : Char} (hc : c ∈ (commaSeparated spec).toList) : c ∈ spec.toList ∨ c = ',' := by
      rw [toList_commaSeparated] at hc
      exact mem_of_mem_intercalate hc
    have hform : formOf (commaSeparated spec).toList = .explicit := by
      refine if_pos (List.any_eq_true.2 ⟨',', ?_, rfl⟩)
      rw [toList_commaSeparated]
      exact comma_mem_intercalate hlength
    rw [read_of_one_side, hform, readSide, toList_commaSeparated, cutSide_intercalate h hlength]
    · intro c hc
      rcases hmem hc with hplain | rfl
      · exact (h c hplain).1
      · decide
    · intro hc
      rcases hmem hc with hplain | hcomma
      · exact hdash hplain
      · exact absurd hcomma (by decide)

/-! ## Main statement -/

/-- A text of two or more plain characters is read as a compact shape, and its characters with
commas between them as an explicit shape of the same slots; or both fail for the same cause, each
error being reported for the text that was read. -/
theorem compact_agrees_with_explicit (r : Registry) (mode : NumberMode) (spec : String)
    (hlength : 2 ≤ spec.length) (hplain : ∀ c ∈ spec.toList, PlainChar c) :
    (∃ slots, read r mode spec = .ok (.shape .compact slots) ∧
        read r mode (commaSeparated spec) = .ok (.shape .explicit slots)) ∨
      ∃ cause, read r mode spec = .error ⟨spec, cause⟩ ∧
        read r mode (commaSeparated spec) = .error ⟨commaSeparated spec, cause⟩ := by
  obtain ⟨hcompact, hexplicit⟩ := read_plain r mode hplain hlength
  rw [readSlots_restate r mode spec (commaSeparated spec)] at hexplicit
  cases hslots : readSlots r mode spec 0 (spec.toList.map fun c => [c]) with
  | ok slots =>
    rw [hslots] at hcompact hexplicit
    exact .inl ⟨slots, hcompact, hexplicit⟩
  | error e =>
    rw [hslots] at hcompact hexplicit
    obtain ⟨named, cause⟩ := e
    obtain rfl : named = spec := errorsName_read _ hcompact
    exact .inr ⟨cause, hcompact, hexplicit⟩

/-- With an underscore, a number and a letter both spellings are read, and with a letter that is not
in ASCII both fail. -/
theorem compact_agrees_with_explicit_or_fails :
    let r : Registry := { table := [⟨⟨"Batch", "b", some 6⟩, 0⟩], nextStamp := 1 }
    let slots : Slots := [.anonymous 0, .anonymous 1, .expr (.var ⟨⟨"Batch", "b", some 6⟩, 0⟩)]
    commaSeparated "_4b" = "_,4,b" ∧ commaSeparated "bé" = "b,é" ∧
      read r .anonymous "_4b" = .ok (.shape .compact slots) ∧
      read r .anonymous "_,4,b" = .ok (.shape .explicit slots) ∧
      read r .anonymous "bé" = .error ⟨"bé", .unreadable .malformed⟩ ∧
      read r .anonymous "b,é" = .error ⟨"b,é", .unreadable .malformed⟩ := by
  intro r slots
  have hplain {spec : String} (h : spec.toList.all (fun c => decide (PlainChar c)) = true) :
      ∀ c ∈ spec.toList, PlainChar c :=
    fun c hc => of_decide_eq_true (List.all_eq_true.1 h c hc)
  have hread : read r .anonymous "_4b" = .ok (.shape .compact slots) := by rfl
  have hfails : read r .anonymous "bé" = .error ⟨"bé", .unreadable .malformed⟩ := by rfl
  have hcommas : commaSeparated "_4b" = "_,4,b" := by rfl
  have hcommas' : commaSeparated "bé" = "b,é" := by rfl
  refine ⟨hcommas, hcommas', hread, ?_, hfails, ?_⟩
  · obtain ⟨slots', hcompact, hexplicit⟩ | ⟨_, herror, _⟩ :=
      compact_agrees_with_explicit r .anonymous "_4b" (by decide) (hplain (by decide))
    · obtain ⟨-, rfl⟩ := Spec.shape.inj (Except.ok.inj (hread.symm.trans hcompact))
      rwa [hcommas] at hexplicit
    · cases hread.symm.trans herror
  · obtain ⟨_, hcompact, _⟩ | ⟨cause, herror, hexplicit⟩ :=
      compact_agrees_with_explicit r .anonymous "bé" (by decide) (hplain (by decide))
    · cases hfails.symm.trans hcompact
    · obtain ⟨-, rfl⟩ := ShapeError.mk.inj (Except.error.inj (hfails.symm.trans herror))
      rwa [hcommas'] at hexplicit

end ShapeAlgebra.Spec
