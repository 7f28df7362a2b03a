import ShapeAlgebra.Proofs.Slot.Alike
import ShapeAlgebra.Proofs.Spec.Chain

/-!
# Texts and slots

A side is cut into the texts of its slots and each of them is read as one slot.  The cut loses
nothing, and it goes as far as it can: no text that it leaves has a comma outside its parentheses.
How many are open is counted from the start of a text, which is where the cut starts to count again,
and a parenthesis that closes nothing is not counted.  Conversely, texts that cannot be cut, and
that close what they open, are found again in what they make when joined by commas.  The slots that
are read are as many as the texts, and an ordinal is looked up exactly where it stands.
-/

namespace ShapeAlgebra

namespace Spec

variable {depth : Nat} {cs raw side : List Char} {raws : List (List Char)} {c : Char}

/-! ## Texts that cannot be cut -/

/-- The number of open parentheses behind `cs`, if `depth` are open in front of it. -/
def depthBehind (depth : Nat) (cs : List Char) : Nat := cs.foldl depthAfter depth

/-- No comma of `cs` stands outside all parentheses, if `depth` are open in front of it. -/
def Uncut (depth : Nat) (cs : List Char) : Prop :=
  ∀ before after, cs = before ++ ',' :: after → depthBehind depth before ≠ 0

/-- There is no comma in nothing. -/
lemma uncut_nil (depth : Nat) : Uncut depth [] := by
  intro before after h
  cases before <;> cases h

/-- A text is not cut if its first character does not cut it and the rest is not cut at the depth
behind that. -/
lemma uncut_cons_iff :
    Uncut depth (c :: cs) ↔ ¬(c = ',' ∧ depth = 0) ∧ Uncut (depthAfter depth c) cs := by
  constructor
  · intro h
    refine ⟨?_, fun before after hcs => h (c :: before) after (by rw [hcs, List.cons_append])⟩
    rintro ⟨rfl, hdepth⟩
    exact h [] cs rfl hdepth
  · rintro ⟨hc, hcs⟩ before after heq hdepth
    cases before with
    | nil => exact hc ⟨(List.cons.inj heq).1, hdepth⟩
    | cons b before =>
      obtain ⟨rfl, htail⟩ := List.cons.inj heq
      exact hcs before after htail hdepth

/-- None of the parts between commas can be cut, the first one for the parentheses in front of it
and the others for none. -/
lemma uncut_cutCommas (depth : Nat) (cs : List Char) :
    ∃ part parts, cutCommas depth cs = part :: parts ∧ Uncut depth part ∧
      ∀ part' ∈ parts, Uncut 0 part' := by
  fun_induction cutCommas depth cs with
  | case1 depth => exact ⟨[], [], rfl, uncut_nil depth, fun _ h => absurd h List.not_mem_nil⟩
  | case2 depth c cs _ ih =>
    obtain ⟨part, parts, hcut, hpart, hparts⟩ := ih
    exact ⟨[], part :: parts, by rw [hcut], uncut_nil depth, List.forall_mem_cons.2 ⟨hpart, hparts⟩⟩
  | case3 depth c cs hc ih =>
    obtain ⟨part, parts, hcut, hpart, hparts⟩ := ih
    exact ⟨c :: part, parts, by rw [hcut]; rfl, uncut_cons_iff.2 ⟨hc, hpart⟩, hparts⟩

/-- The parts of a cut are not cut any further. -/
lemma uncut_of_mem_cutCommas (h : raw ∈ cutCommas 0 cs) : Uncut 0 raw := by
  obtain ⟨part, parts, hcut, hpart, hparts⟩ := uncut_cutCommas 0 cs
  rw [hcut] at h
  exact List.forall_mem_cons.2 ⟨hpart, hparts⟩ raw h

/-! ## Cutting again -/

/-- A text without a comma to cut at is a single part. -/
lemma cutCommas_of_uncut (h : Uncut depth cs) : cutCommas depth cs = [cs] := by
  induction cs generalizing depth with
  | nil => rfl
  | cons c cs ih =>
    obtain ⟨hc, hcs⟩ := uncut_cons_iff.1 h
    rw [cutCommas, if_neg hc, ih hcs]
    rfl

/-- Behind a text that cannot be cut and closes what it opens, a comma is cut. -/
lemma cutCommas_append_comma (h : Uncut depth raw) (hdepth : depthBehind depth raw = 0)
    (rest : List Char) : cutCommas depth (raw ++ ',' :: rest) = raw :: cutCommas 0 rest := by
  induction raw generalizing depth with
  | nil =>
    have hcomma : (',' : Char) = ',' ∧ depth = 0 := ⟨rfl, hdepth⟩
    rw [List.nil_append, cutCommas, if_pos hcomma]
  | cons c raw ih =>
    obtain ⟨hc, hraw⟩ := uncut_cons_iff.1 h
    rw [List.cons_append, cutCommas, if_neg hc, ih hraw hdepth]
    rfl

/-- Texts that cannot be cut and close what they open are what their join is cut into. -/
lemma cutCommas_intercalate (hne : raws ≠ [])
    (h : ∀ raw ∈ raws, Uncut 0 raw ∧ depthBehind 0 raw = 0) :
    cutCommas 0 ([','].intercalate raws) = raws := by
  induction raws with
  | nil => exact absurd rfl hne
  | cons raw raws ih =>
    obtain ⟨⟨huncut, hdepth⟩, hraws⟩ := List.forall_mem_cons.1 h
    by_cases hrest : raws = []
    · rw [hrest, List.intercalate_singleton, cutCommas_of_uncut huncut]
    · rw [List.intercalate_cons_of_ne_nil hrest, List.append_assoc, List.singleton_append,
        cutCommas_append_comma huncut hdepth, ih hrest hraws]

/-! ## Sides -/

/-- The texts of the slots of a side without a comma, one after the other, are the side. -/
lemma flatten_cutSide (h : ',' ∉ side) : (cutSide side).flatten = side := by
  have hcomma : side.contains ',' = false := by simpa using h
  rw [cutSide, hcomma, if_neg Bool.false_ne_true]
  split
  · exact List.append_nil side
  · exact List.flatMap_singleton' side

/-- A side with a comma is cut at its commas. -/
lemma cutSide_of_comma (h : ',' ∈ side) : cutSide side = cutCommas 0 side :=
  if_pos (List.contains_iff_mem.2 h)

end Spec

/-! ## Lookup of ordinals -/

/-- There is a position for each anonymous slot. -/
lemma Slots.length_anonymousPositions (slots : Slots) :
    slots.anonymousPositions.length = slots.anonymousCount := by
  rw [anonymousPositions_eq_findIdxs, List.length_findIdxs, anonymousCount]

namespace Spec

variable {r : Registry} {mode : NumberMode} {spec : String} {side : List Char} {slots : Slots}

/-- The slots stand for the texts of a side of `spec`, one for each, the anonymous ones carry the
ordinals from zero on, and an ordinal is looked up exactly where it stands. -/
structure StandFor (r : Registry) (mode : NumberMode) (spec : String) (side : List Char)
    (slots : Slots) : Prop where
  one_each : List.Forall₂ (fun raw slot => ∃ next, readSlot r mode spec next raw = .ok slot)
    (cutSide side) slots
  ordinals_eq : slots.ordinals = List.range slots.anonymousCount
  position_iff : ∀ ordinal position, slots.anonymousPosition? ordinal = some position ↔
    slots[position]? = some (.anonymous ordinal)
  position_none : ∀ ordinal, slots.anonymousPosition? ordinal = none ↔
    slots.anonymousCount ≤ ordinal

/-- Slots that are read from a side stand for its texts. -/
lemma standFor_of_readSide (h : readSide r mode spec side = .ok slots) :
    StandFor r mode spec side slots where
  one_each := forall₂_readSlot_of_readSlots h
  ordinals_eq := numbered_of_readSide h
  position_iff _ _ := (numbered_of_readSide h).anonymousPosition?_eq_some_iff
  position_none _ := by
    rw [Slots.anonymousPosition?, List.getElem?_eq_none_iff, Slots.length_anonymousPositions]

/-- The texts of the sides of a spec: the whole text, or what is before and after the first
arrow. -/
def sideTexts (spec : String) : List (List Char) :=
  match cutFirstArrow? (Text.withoutBlanks spec.toList) with
  | some (before, after) => [before, after]
  | none => [Text.withoutBlanks spec.toList]

/-- The slots of a spec are read off the texts of its sides. -/
lemma forall₂_readSide_of_read {s : Spec} (h : read r mode spec = .ok s) :
    List.Forall₂ (fun side slots => readSide r mode spec side = .ok slots) (sideTexts spec)
      (slotLists s) := by
  unfold read at h
  dsimp only at h
  split at h
  · rename_i before after hcut
    obtain ⟨source, hsource, hrest⟩ := bind_eq_ok_iff.1 h
    obtain ⟨target, htarget, hs⟩ := bind_eq_ok_iff.1 hrest
    obtain rfl := Except.ok.inj hs
    rw [sideTexts, hcut]
    exact .cons hsource (.cons htarget .nil)
  · rename_i hcut
    obtain ⟨slots, hslots, hs⟩ := bind_eq_ok_iff.1 h
    obtain rfl := Except.ok.inj hs
    rw [sideTexts, hcut]
    exact .cons hslots .nil

/-! ## Main statement -/

/-- The texts of the slots of a side are the side again, in a row if it has no comma and joined by
commas otherwise, and then none of them can be cut any further.  The slots of a spec, and those of a
chain, stand for the texts of its sides, one for each, with their anonymous ones numbered. -/
theorem slots_stand_for_texts :
    (∀ side : List Char, (',' ∉ side → (cutSide side).flatten = side) ∧
      (',' ∈ side → [','].intercalate (cutSide side) = side ∧ ∀ raw ∈ cutSide side, Uncut 0 raw)) ∧
    (∀ r mode spec s, read r mode spec = .ok s →
      List.Forall₂ (StandFor r mode spec) (sideTexts spec) (slotLists s)) ∧
    ∀ r spec stages, readChain r spec = .ok stages →
      List.Forall₂ (StandFor r .size spec) (stageTexts spec) stages := by
  refine ⟨fun side => ⟨flatten_cutSide, fun hcomma => ?_⟩, ?_, ?_⟩
  · rw [cutSide_of_comma hcomma]
    exact ⟨intercalate_cutCommas 0 side, fun raw => uncut_of_mem_cutCommas⟩
  · intro r mode spec s h
    exact (forall₂_readSide_of_read h).imp fun _ _ => standFor_of_readSide
  · intro r spec stages h
    exact (readChain_eq_ok_iff.1 h).imp fun _ _ => standFor_of_readSide

/-- A parenthesis that closes nothing does not keep a comma, and one that is not closed keeps all
commas behind it.  Numbers, underscores and empty texts are numbered in one row. -/
theorem slots_stand_for_texts_unbalanced :
    let r : Registry := { table := [⟨⟨"Batch", "b", some 6⟩, 0⟩], nextStamp := 1 }
    let b : Slot := .expr (.var ⟨⟨"Batch", "b", some 6⟩, 0⟩)
    let target : Slots := [.anonymous 0, b, .anonymous 1, .anonymous 2]
    cutSide "b),(b,b".toList = ["b)".toList, "(b,b".toList] ∧
      [','].intercalate (cutSide "b),(b,b".toList) = "b),(b,b".toList ∧ Uncut 0 "(b,b".toList ∧
      read r .anonymous "b_ -> _,(b),,2" = .ok (.transform [b, .anonymous 0] target) ∧
      target.anonymousPosition? 2 = some 3 ∧ target.anonymousPosition? 3 = none := by
  intro r b target
  obtain ⟨htexts, hspecs, -⟩ := slots_stand_for_texts
  have hcut : cutSide "b),(b,b".toList = ["b)".toList, "(b,b".toList] := by rfl
  obtain ⟨hjoined, huncut⟩ := (htexts "b),(b,b".toList).2 (by decide)
  have hread : read r .anonymous "b_ -> _,(b),,2" = .ok (.transform [b, .anonymous 0] target) := by
    rfl
  have hsides : sideTexts "b_ -> _,(b),,2" = ["b_".toList, "_,(b),,2".toList] := by rfl
  have hstand := hspecs r .anonymous _ _ hread
  rw [hsides] at hstand
  obtain _ | ⟨-, _ | ⟨htarget, -⟩⟩ := hstand
  refine ⟨hcut, hjoined, huncut _ ?_, hread, (htarget.position_iff 2 3).2 rfl,
    (htarget.position_none 3).2 (by decide)⟩
  rw [hcut]
  exact List.mem_cons_of_mem _ List.mem_cons_self

end Spec

end ShapeAlgebra
