import Mathlib.Data.List.Infix
import ShapeAlgebra.Proofs.Arith.Reading
import ShapeAlgebra.Proofs.Outcome
import ShapeAlgebra.Proofs.Spec.Arrows
import ShapeAlgebra.Proofs.Spec.Numbering

/-!
# Chains and transforms

A spec is read by cutting it at its first arrow, and as a chain by cutting it at every arrow.  With
one arrow or none the two cuts are the same, and so is what is read.  With more arrows there is one
left on the target side of the first cut, and no side that holds the head of an arrow can be read:
the commas leave it in the text of some slot, and slot arithmetic has no such character.
-/

namespace ShapeAlgebra

/-! ## Characters of slot arithmetic -/

namespace Term

open Text

/-- The text of a token has none but word characters and signs of arithmetic. -/
lemma Token.Spells.isArithmetic {t : Token} {word : List Char} (h : t.Spells word) :
    ∀ c ∈ word, isWordChar c = true ∨ Spec.isArithmetic c = true := by
  intro c hc
  cases h with
  | ident hident => exact .inl (hident.all_isWordChar c hc)
  | int hnumeral => exact .inl (hnumeral.all_isWordChar c hc)
  | op op =>
    have hsign : ∀ c ∈ op.sign.toList, Spec.isArithmetic c = true := by
      cases op <;> simp [Op.sign, Spec.isArithmetic]
    exact .inr (hsign c hc)
  | opening =>
    obtain rfl := List.mem_singleton.1 hc
    exact .inr (by decide)
  | closing =>
    obtain rfl := List.mem_singleton.1 hc
    exact .inr (by decide)

/-- A text of slot arithmetic has blanks, word characters and arithmetic characters, and no
others. -/
lemma Spelled.isArithmetic {ts : List Token} {cs : List Char} (h : Spelled ts cs) :
    ∀ c ∈ cs, isBlank c = true ∨ isWordChar c = true ∨ Spec.isArithmetic c = true := by
  induction h with
  | nil hblanks => exact fun c hc => .inl (hblanks c hc)
  | cons hblanks hword _ ih =>
    intro c hc
    rcases List.mem_append.1 hc with hblank | hrest
    · exact .inl (hblanks c hblank)
    · rcases List.mem_append.1 hrest with hmem | htail
      · exact .inr (hword.isArithmetic c hmem)
      · exact ih c htail

/-- The head of an arrow cannot be read in slot arithmetic. -/
lemma read?_eq_none_of_arrowhead {cs : List Char} (h : '>' ∈ cs) : read? cs = none := by
  refine Option.eq_none_iff_forall_ne_some.2 fun t ht => ?_
  obtain ⟨ts, hspelled, _⟩ := read?_eq_some_iff.1 ht
  exact absurd (hspelled.isArithmetic '>' h) (by decide)

end Term

namespace Spec

variable {r : Registry} {mode : NumberMode} {spec : String}

/-! ## Cuts -/

/-- The number of arrows in a text. -/
def arrowCount (cs : List Char) : Nat := cs.tails.countP fun tail => ['-', '>'].isPrefixOf tail

/-- A text has one part more than it has arrows. -/
lemma length_cutArrows (cs : List Char) : (cutArrows cs).length = arrowCount cs + 1 := by
  induction cs using cutArrows.induct with
  | case1 => rfl
  | case2 cs ih =>
    have hcount : arrowCount ('-' :: '>' :: cs) = arrowCount cs + 1 := by
      simp [arrowCount]
    rw [cutArrows, List.length_cons, ih, hcount]
  | case3 c cs hcs ih =>
    have hcount : arrowCount (c :: cs) = arrowCount cs := by
      have hprefix : ¬['-', '>'].isPrefixOf (c :: cs) = true := by
        rw [List.isPrefixOf_iff_prefix]
        rintro ⟨rest, hrest⟩
        obtain ⟨rfl, rfl⟩ := List.cons.inj hrest.symm
        exact hcs rest rfl rfl
      rw [arrowCount, List.tails_cons, List.countP_cons_of_neg hprefix, arrowCount]
    rw [cutArrows.eq_3 c cs hcs, List.length_modifyHead, ih, hcount]

/-- Without a first arrow there is nothing to cut. -/
lemma cutArrows_of_no_arrow {cs : List Char} (h : cutFirstArrow? cs = none) :
    cutArrows cs = [cs] := by
  induction cs using cutArrows.induct with
  | case1 => rfl
  | case2 cs _ =>
    rw [cutFirstArrow?] at h
    cases h
  | case3 c cs hcs ih =>
    rw [cutFirstArrow?.eq_3 c cs hcs, Option.map_eq_none_iff] at h
    rw [cutArrows.eq_3 c cs hcs, ih h]
    rfl

/-- Behind the first arrow a text is cut as it is by itself. -/
lemma cutArrows_of_first_arrow {cs before after : List Char}
    (h : cutFirstArrow? cs = some (before, after)) :
    cutArrows cs = before :: cutArrows after := by
  induction cs using cutArrows.induct generalizing before with
  | case1 => cases h
  | case2 cs _ =>
    rw [cutFirstArrow?] at h
    obtain ⟨rfl, rfl⟩ := Prod.mk.inj (Option.some.inj h)
    rw [cutArrows]
  | case3 c cs hcs ih =>
    rw [cutFirstArrow?.eq_3 c cs hcs] at h
    obtain ⟨⟨rest, tail⟩, hrest, heq⟩ := Option.map_eq_some_iff.1 h
    obtain ⟨rfl, rfl⟩ := Prod.mk.inj heq
    rw [cutArrows.eq_3 c cs hcs, ih hrest]
    rfl

/-- A text that is cut has the head of an arrow. -/
lemma arrowhead_mem {cs : List Char} (h : 2 ≤ (cutArrows cs).length) : '>' ∈ cs := by
  induction cs using cutArrows.induct with
  | case1 => exact absurd h (by decide)
  | case2 cs _ => exact List.mem_cons_of_mem _ List.mem_cons_self
  | case3 c cs hcs ih =>
    rw [cutArrows.eq_3 c cs hcs, List.length_modifyHead] at h
    exact List.mem_cons_of_mem c (ih h)

/-! ## Sides with an arrow -/

/-- A character that is no comma stays in one of the parts between commas. -/
lemma exists_mem_cutCommas {depth : Nat} {cs : List Char} {c : Char} (hc : c ∈ cs)
    (hne : c ≠ ',') : ∃ part ∈ cutCommas depth cs, c ∈ part := by
  fun_induction cutCommas depth cs with
  | case1 => exact absurd hc List.not_mem_nil
  | case2 _ first cs hcomma ih =>
    rcases List.mem_cons.1 hc with rfl | hmem
    · exact absurd hcomma.1 hne
    · obtain ⟨part, hpart, hin⟩ := ih hmem
      exact ⟨part, List.mem_cons_of_mem _ hpart, hin⟩
  | case3 depth first cs _ ih =>
    obtain ⟨part, parts, hparts⟩ :=
      List.exists_cons_of_ne_nil (cutCommas_ne_nil (depthAfter depth first) cs)
    rw [hparts] at ih ⊢
    rw [List.modifyHead_cons]
    rcases List.mem_cons.1 hc with rfl | hmem
    · exact ⟨_, List.mem_cons_self, List.mem_cons_self⟩
    · obtain ⟨holder, hholder, hin⟩ := ih hmem
      rcases List.mem_cons.1 hholder with rfl | hrest
      · exact ⟨_, List.mem_cons_self, List.mem_cons_of_mem first hin⟩
      · exact ⟨holder, List.mem_cons_of_mem _ hrest, hin⟩

/-- A character that is no comma stays in the text of some slot. -/
lemma exists_mem_cutSide {side : List Char} {c : Char} (hc : c ∈ side) (hne : c ≠ ',') :
    ∃ raw ∈ cutSide side, c ∈ raw := by
  unfold cutSide
  split
  · exact exists_mem_cutCommas hc hne
  · split
    · exact ⟨side, List.mem_singleton_self side, hc⟩
    · exact ⟨[c], List.mem_map_of_mem hc, List.mem_singleton_self c⟩

/-- No slot has the head of an arrow in its text. -/
lemma arrowhead_not_mem_of_readSlot {next : Nat} {raw : List Char} {slot : Slot}
    (h : readSlot r mode spec next raw = .ok slot) : '>' ∉ raw := by
  intro hmem
  have hplaceholder : isPlaceholder mode raw = false := by
    have hempty : (raw == []) = false := by
      rw [beq_eq_false_iff_ne]
      exact List.ne_nil_of_mem hmem
    have hunderscore : (raw == ['_']) = false := by
      rw [beq_eq_false_iff_ne]
      rintro rfl
      exact absurd hmem (by decide)
    have hdigits : raw.all Char.isDigit = false := by
      rw [List.all_eq_false]
      exact ⟨'>', hmem, by decide⟩
    rw [isPlaceholder, hempty, hunderscore, hdigits, Bool.and_false]
    rfl
  have hinferred : raw ≠ ['-', '1'] := by
    rintro rfl
    exact absurd hmem (by decide)
  rw [readSlot, hplaceholder, if_neg Bool.false_ne_true, if_neg hinferred, Registry.readExpr_eq,
    Term.read?_eq_none_of_arrowhead hmem] at h
  cases h

/-- No side that is read has the head of an arrow in its text. -/
lemma arrowhead_not_mem_of_readSide {side : List Char} {slots : Slots}
    (h : readSide r mode spec side = .ok slots) : '>' ∉ side := by
  intro hmem
  obtain ⟨raw, hraw, hin⟩ := exists_mem_cutSide hmem (by decide)
  obtain ⟨slot, -, ordinal, hslot⟩ :=
    exists_of_mem_right (forall₂_readSlot_of_readSlots h).flip hraw
  exact arrowhead_not_mem_of_readSlot hslot hin

/-! ## Chains -/

/-- The stages of a spec: the shape by itself, or the source and the target. -/
def slotLists : Spec → List Slots
  | .shape _ slots => [slots]
  | .transform source target => [source, target]

/-- A text with an arrow behind its first one has the head of an arrow there. -/
lemma arrowhead_mem_of_first_arrow {cs before after : List Char}
    (hcut : cutFirstArrow? cs = some (before, after)) (h : 3 ≤ (cutArrows cs).length) :
    '>' ∈ after := by
  rw [cutArrows_of_first_arrow hcut, List.length_cons] at h
  exact arrowhead_mem (Nat.le_of_succ_le_succ h)

/-- A spec with at most one arrow is read as the chain of its stages. -/
lemma readChain_of_arrowCount (h : arrowCount (Text.withoutBlanks spec.toList) ≤ 1) :
    readChain r spec = (read r .size spec).map slotLists := by
  unfold readChain read
  dsimp only
  split
  · rename_i before after hcut
    have hcuts := cutArrows_of_first_arrow hcut
    have hafter : cutFirstArrow? after = none := by
      refine Option.eq_none_iff_forall_ne_some.2 fun ⟨_, _⟩ hmore => ?_
      have hlength := length_cutArrows (Text.withoutBlanks spec.toList)
      rw [hcuts, cutArrows_of_first_arrow hmore, List.length_cons, List.length_cons,
        length_cutArrows] at hlength
      omega
    rw [hcuts, cutArrows_of_no_arrow hafter, List.mapM_cons, List.mapM_cons, List.mapM_nil]
    cases readSide r .size spec before with
    | error e => rfl
    | ok source => cases readSide r .size spec after <;> rfl
  · rename_i hnone
    rw [cutArrows_of_no_arrow hnone, List.mapM_cons, List.mapM_nil]
    cases readSide r .size spec (Text.withoutBlanks spec.toList) <;> rfl

/-- A spec with more than two stages cannot be read, whatever numbers stand for. -/
lemma read_ne_ok_of_stages (h : 3 ≤ (stageTexts spec).length) (s : Spec) :
    read r mode spec ≠ .ok s := by
  intro hread
  unfold read at hread
  dsimp only at hread
  split at hread
  · rename_i before after hcut
    obtain ⟨_, _, hrest⟩ := bind_eq_ok_iff.1 hread
    obtain ⟨target, htarget, _⟩ := bind_eq_ok_iff.1 hrest
    exact arrowhead_not_mem_of_readSide htarget (arrowhead_mem_of_first_arrow hcut h)
  · rename_i hnone
    rw [stageTexts, cutArrows_of_no_arrow hnone, List.length_singleton] at h
    exact absurd h (by decide)

/-- The two ways to read a spec agree up to one arrow: they fail with the same error or give the
same stages.  A spec of more than two stages is read as a chain only. -/
theorem readChain_agrees_with_read (r : Registry) (spec : String) :
    (stageTexts spec).length = arrowCount (Text.withoutBlanks spec.toList) + 1 ∧
      (arrowCount (Text.withoutBlanks spec.toList) ≤ 1 →
        readChain r spec = (read r .size spec).map slotLists) ∧
      (3 ≤ (stageTexts spec).length → ∃ e, read r .size spec = .error e) := by
  refine ⟨length_cutArrows _, readChain_of_arrowCount, fun h => ?_⟩
  cases hread : read r .size spec with
  | ok s => exact absurd hread (read_ne_ok_of_stages h s)
  | error e => exact ⟨e, rfl⟩

/-- With one arrow both ways give the source and the target, and with two arrows only the chain can
be read. -/
theorem readChain_agrees_with_read_up_to_one_arrow :
    let r : Registry := { table := [⟨⟨"Batch", "b", some 6⟩, 0⟩], nextStamp := 1 }
    readChain r "b -> b,1" = (read r .size "b -> b,1").map slotLists ∧
      (∃ stages, readChain r "b -> _ -> b,1" = .ok stages ∧ stages.length = 3) ∧
      ∃ e, read r .size "b -> _ -> b,1" = .error e := by
  intro r
  refine ⟨(readChain_agrees_with_read r "b -> b,1").2.1 (by decide), ⟨_, by rfl, rfl⟩, ?_⟩
  exact (readChain_agrees_with_read r "b -> _ -> b,1").2.2 (by decide)

end Spec

end ShapeAlgebra
