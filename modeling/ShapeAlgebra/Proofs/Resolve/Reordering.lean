import ShapeAlgebra.Proofs.Resolve.Arrangement
import ShapeAlgebra.Proofs.Resolve.Expand
import ShapeAlgebra.Resolve.View

/-!
# Resolving by name

The axes of a source may be moved about together with their sizes.  As long as no two slots pair up,
and the anonymous ones stay in order among themselves, that makes no difference to what is resolved.
Every lookup in the source answers with a position, and the reason is the same for all of them: the
position that is found before the move is the one that the position found behind it has come from.
An expression is found at the one slot that pairs up with it, and an ordinal by counting anonymous
slots.  What is left is to follow the positions through the resolvers.
-/

namespace ShapeAlgebra

namespace Slots

variable {source moved : Slots} {order : List Nat} {index position : Nat}

/-! ## Orders -/

/-- `order` lists the positions of `slots`, and those of the anonymous ones ascend in it. -/
structure OrderedBy (slots : Slots) (order : List Nat) : Prop where
  perm : order.Perm (List.range slots.length)
  anonymous_sublist : slots.anonymousPositions.Sublist order

namespace OrderedBy

/-- An order lists positions inside of the slots. -/
lemma lt_length (h : source.OrderedBy order) : ∀ i ∈ order, i < source.length :=
  fun _ hi => List.mem_range.1 (h.perm.subset hi)

/-- An order lists no position twice. -/
lemma nodup (h : source.OrderedBy order) : order.Nodup := h.perm.nodup_iff.2 List.nodup_range

end OrderedBy

/-- `moved` has the slots of `source` in the order `order`, up to the ordinals of the anonymous
ones. -/
structure Reordered (source : Slots) (order : List Nat) (moved : Slots) : Prop
    extends OrderedBy source order where
  alike : List.Forall₂ (fun s t => Slot.alike s t = true) (readAt order source) moved

/-- Slots that are read in an order and numbered again are reordered by it. -/
lemma OrderedBy.reordered_renumbered (h : source.OrderedBy order) :
    source.Reordered order (renumbered (readAt order source)) :=
  ⟨h, forall₂_alike_renumberedFrom 0 _⟩

/-- Two lookups answer with the same axis, the first one before the move to `order` and the second
one behind it, or none of them answers. -/
inductive FoundAlike (order : List Nat) : Option Nat → Option Nat → Prop
  | none : FoundAlike order none none
  | some {position index : Nat} (h : order[index]? = some position) :
    FoundAlike order (some position) (some index)

namespace Reordered

/-- There are as many slots behind the move as positions in the order. -/
lemma length_eq (h : source.Reordered order moved) : order.length = moved.length := by
  rw [← h.alike.length_eq, length_readAt h.lt_length]

/-- What is reordered is a rearrangement. -/
lemma rearranges (h : source.Reordered order moved) : source.Rearranges moved :=
  ⟨readAt order source, perm_readAt h.perm, h.alike⟩

/-- A slot and what it is moved to are alike. -/
lemma alike_of_getElem? (h : source.Reordered order moved) {s t : Slot}
    (hposition : order[index]? = some position) (hs : source[position]? = some s)
    (ht : moved[index]? = some t) : s.alike t = true := by
  rw [← getElem?_readAt h.lt_length hposition] at hs
  have hrel := rel_of_getElem? h.alike hs ht
  exact hrel

/-- Every slot has come from one that is like it. -/
lemma exists_origin (h : source.Reordered order moved) {t : Slot} (ht : moved[index]? = some t) :
    ∃ position s, order[index]? = some position ∧ source[position]? = some s ∧
      s.alike t = true := by
  have hlt : index < order.length := by
    rw [h.length_eq]
    exact (List.getElem?_eq_some_iff.1 ht).1
  have hposition := List.getElem?_eq_getElem hlt
  have hs := List.getElem?_eq_getElem (h.lt_length _ (List.mem_of_getElem? hposition))
  exact ⟨_, _, hposition, hs, h.alike_of_getElem? hposition hs ht⟩

/-- Every slot has gone to one that is like it. -/
lemma exists_destination (h : source.Reordered order moved) {s : Slot}
    (hs : source[position]? = some s) :
    ∃ (index : Nat) (t : Slot), order[index]? = some position ∧ moved[index]? = some t ∧
      s.alike t = true := by
  have hmem : position ∈ order :=
    h.perm.mem_iff.2 (List.mem_range.2 (List.getElem?_eq_some_iff.1 hs).1)
  obtain ⟨index, hposition⟩ := List.mem_iff_getElem?.1 hmem
  have hlt : index < moved.length := by
    rw [← h.length_eq]
    exact (List.getElem?_eq_some_iff.1 hposition).1
  have ht := List.getElem?_eq_getElem hlt
  exact ⟨index, _, hposition, ht, h.alike_of_getElem? hposition hs ht⟩

/-! ## Lookups -/

/-- An expression is found at the axis that pairs up with it, wherever that axis stands. -/
lemma foundAlike_positionOf? (h : source.Reordered order moved) (hdistinct : source.Distinct)
    (e : Expr) : FoundAlike order (source.positionOf? e) (moved.positionOf? e) := by
  cases hindex : moved.positionOf? e with
  | some index =>
    obtain ⟨e', ht, hsame⟩ := getElem?_of_positionOf? hindex
    obtain ⟨position, s, hposition, hs, halike⟩ := h.exists_origin ht
    have hpairs : s.pairs (.expr e) = true :=
      Slot.pairs_of_alike (Slot.alike_trans halike hsame) rfl
    rw [hdistinct.positionOf?_eq hs hpairs]
    exact .some hposition
  | none =>
    cases hposition : source.positionOf? e with
    | none => exact .none
    | some position =>
      obtain ⟨e', hs, hsame⟩ := getElem?_of_positionOf? hposition
      -- the slot that is found before the move is somewhere behind it, and would be found there
      obtain ⟨index, t, -, ht, halike⟩ := h.exists_destination hs
      rw [Slot.alike_comm] at halike
      have hpairs : t.pairs (.expr e) = true :=
        Slot.pairs_of_alike (Slot.alike_trans halike hsame) rfl
      obtain ⟨_, hfound⟩ := exists_positionOf? (List.mem_of_getElem? ht) hpairs
      rw [hindex] at hfound
      cases hfound

/-- The anonymous slots have come from the anonymous ones, in order. -/
lemma readAt_anonymousPositions (h : source.Reordered order moved) :
    readAt moved.anonymousPositions order = source.anonymousPositions := by
  have hsub : (readAt moved.anonymousPositions order).Sublist order := by
    have hrange := moved.anonymousPositions_sublist.filterMap (order[·]?)
    rwa [← h.length_eq, ← readAt, ← readAt, readAt_range] at hrange
  -- both are sublists of `order`, so that it is enough for them to have the same elements
  refine (h.nodup.perm_iff_eq_of_sublist hsub h.anonymous_sublist).1 ?_
  refine (List.perm_ext_iff_of_nodup (h.nodup.sublist hsub) source.nodup_anonymousPositions).2 ?_
  intro position
  rw [readAt, List.mem_filterMap, mem_anonymousPositions_iff]
  constructor
  · rintro ⟨index, hmem, hposition⟩
    obtain ⟨ordinal, ht⟩ := mem_anonymousPositions_iff.1 hmem
    obtain ⟨position', s, hposition', hs, halike⟩ := h.exists_origin ht
    obtain rfl := Option.some.inj (hposition'.symm.trans hposition)
    rw [Slot.alike_anonymous, Slot.isAnonymous_iff] at halike
    obtain ⟨ordinal', rfl⟩ := halike
    exact ⟨ordinal', hs⟩
  · rintro ⟨ordinal, hs⟩
    obtain ⟨index, t, hposition, ht, halike⟩ := h.exists_destination hs
    rw [Slot.alike_comm, Slot.alike_anonymous, Slot.isAnonymous_iff] at halike
    obtain ⟨ordinal', rfl⟩ := halike
    exact ⟨index, mem_anonymousPositions_iff.2 ⟨ordinal', ht⟩, hposition⟩

/-- An ordinal is found at the axis that it has been found at. -/
lemma foundAlike_anonymousPosition? (h : source.Reordered order moved) (ordinal : Nat) :
    FoundAlike order (source.anonymousPosition? ordinal) (moved.anonymousPosition? ordinal) := by
  have hlt : ∀ index ∈ moved.anonymousPositions, index < order.length := by
    intro index hindex
    rw [h.length_eq]
    exact List.mem_range.1 (moved.anonymousPositions_sublist.subset hindex)
  unfold anonymousPosition?
  rw [← h.readAt_anonymousPositions]
  cases hindex : moved.anonymousPositions[ordinal]? with
  | some index =>
    have hposition := List.getElem?_eq_getElem (hlt index (List.mem_of_getElem? hindex))
    rw [getElem?_readAt hlt hindex, hposition]
    exact .some hposition
  | none =>
    rw [List.getElem?_eq_none_iff, ← length_readAt hlt] at hindex
    rw [List.getElem?_eq_none hindex]
    exact .none

end Reordered

end Slots

namespace Resolve

variable {spec : String} {source moved target : Slots} {order : List Nat} {shape : List Size}
  {before behind : Option Nat}

/-! ## Parts of a resolution -/

/-- A size is moved with its axis. -/
lemma elementAt_readAt {xs : List Size} {index position : Nat}
    (hlt : ∀ i ∈ order, i < xs.length) (hposition : order[index]? = some position) :
    (Checked.elementAt (readAt order xs) index : Checked ShapeError Size) =
      Checked.elementAt xs position := by
  unfold Checked.elementAt
  rw [getElem?_readAt hlt hposition]

/-- Where two lookups find the same axis the same size is read. -/
lemma elementAt_or_of_foundAlike (hlt : ∀ i ∈ order, i < shape.length)
    (other : Checked ShapeError Size) :
    Slots.FoundAlike order before behind →
      (match behind with
        | some index => Checked.elementAt (readAt order shape) index
        | none => other) =
        match before with
        | some position => Checked.elementAt shape position
        | none => other
  | .none => rfl
  | .some hposition => elementAt_readAt hlt hposition

/-- The checks on a source come to the same when it has been moved about. -/
lemma checkSource_reordered (h : source.Reordered order moved)
    (hlen : source.length = shape.length) :
    checkSource spec moved (readAt order shape) = checkSource spec source shape := by
  have hmoved : moved.length = (readAt order shape).length := by
    rw [← h.length_eq, length_readAt (hlen ▸ h.lt_length)]
  unfold checkSource
  rw [if_neg (not_not.2 hlen), if_neg (not_not.2 hmoved), h.rearranges.any_isInferred_eq]

section

variable (h : source.Reordered order moved) (hdistinct : source.Distinct)
  (hlen : source.length = shape.length)
include h hdistinct hlen

/-- A dimension is bound to the size that it has been bound to. -/
lemma binding_reordered : binding moved (readAt order shape) = binding source shape := by
  funext d
  rw [binding_eq_bind_positionOf?, binding_eq_bind_positionOf?]
  have hfound := h.foundAlike_positionOf? hdistinct (.var d)
  generalize source.positionOf? (.var d) = before at hfound ⊢
  generalize moved.positionOf? (.var d) = behind at hfound ⊢
  cases hfound with
  | none => rfl
  | some hposition => exact getElem?_readAt (hlen ▸ h.lt_length) hposition

/-- Expressions have the same value before the move and behind it. -/
lemma evalOn_reordered (e : Expr) :
    evalOn spec moved (readAt order shape) e = evalOn spec source shape e := by
  unfold evalOn
  rw [binding_reordered h hdistinct hlen]

/-! ## Views -/

/-- Slots of the target have the same size before the move and behind it. -/
lemma slotSize_reordered (slot : Slot) :
    slotSize spec moved target (readAt order shape) slot =
      slotSize spec source target shape slot := by
  have hlt : ∀ i ∈ order, i < shape.length := hlen ▸ h.lt_length
  cases slot with
  | anonymous ordinal =>
    simp only [slotSize, placeholderError, ← h.rearranges.anonymousCount_eq]
    exact elementAt_or_of_foundAlike hlt _ (h.foundAlike_anonymousPosition? ordinal)
  | inferred => rfl
  | expr e =>
    have hexpr : exprSize spec moved (readAt order shape) e = exprSize spec source shape e := by
      simp only [exprSize, evalOn_reordered h hdistinct hlen]
      exact elementAt_or_of_foundAlike hlt _ (h.foundAlike_positionOf? hdistinct e)
    simp only [slotSize, hexpr]

/-- A view comes to what it has come to before if the check on an axis to be inferred does. -/
lemma view_reordered_of_checkInferred
    (hinferred : ∀ sizes, checkInferred spec target (readAt order shape) sizes =
      checkInferred spec target shape sizes) :
    view spec moved target (readAt order shape) = view spec source target shape := by
  have hslots : slotSize spec moved target (readAt order shape) =
      slotSize spec source target shape :=
    funext fun slot => slotSize_reordered h hdistinct hlen slot
  simp only [view, hinferred, hslots, checkSource_reordered h hlen]

/-- A view with nothing to infer is the same before the move and behind it. -/
lemma view_reordered (htarget : ∀ slot ∈ target, slot.isInferred = false) :
    view spec moved target (readAt order shape) = view spec source target shape := by
  have hnone : target.countP Slot.isInferred = 0 :=
    List.countP_eq_zero.2 fun slot hslot => ne_true_of_eq_false (htarget slot hslot)
  refine view_reordered_of_checkInferred h hdistinct hlen fun sizes => ?_
  simp only [checkInferred, hnone]

/-! ## Expansions -/

/-- The factor of an axis goes where the axis has gone. -/
lemma expandAxis_reordered {factors : List Size} (hfactors : factors.length = source.length)
    (expansion : Expr × Expr) :
    expandAxis spec moved (readAt order shape) (readAt order factors) expansion =
      (expandAxis spec source shape factors expansion).map (readAt order) := by
  obtain ⟨axis, size⟩ := expansion
  have hfound := h.foundAlike_positionOf? hdistinct axis
  generalize hbefore : source.positionOf? axis = before at hfound
  generalize hbehind : moved.positionOf? axis = behind at hfound
  cases hfound with
  | none =>
    simp only [expandAxis, namedAxis, hbefore, hbehind]
    rfl
  | @some position index hposition =>
    have hlt : ∀ i ∈ order, i < shape.length := hlen ▸ h.lt_length
    have hn := List.getElem?_eq_getElem (hlt position (List.mem_of_getElem? hposition))
    have hn' := (getElem?_readAt hlt hposition).trans hn
    have hset (factor : Size) : readAt order (factors.set position factor) =
        (readAt order factors).set index factor :=
      readAt_set (hfactors ▸ h.lt_length) h.nodup hposition factor
    rw [expandAxis_of_positionOf? hbehind hn', expandAxis_of_positionOf? hbefore hn, map_map_eq,
      evalOn_reordered h hdistinct hlen]
    simp only [hset]

/-- The factors of named axes are moved with them. -/
lemma expand_reordered (expansions : List (Expr × Expr)) :
    expand spec moved expansions (readAt order shape) =
      (expand spec source expansions shape).map (readAt order) := by
  have hstart : readAt order (List.replicate source.length (-1)) =
      List.replicate moved.length (-1 : Size) := by
    rw [readAt_replicate h.lt_length, h.length_eq]
  have hstep (factors : List Size) (expansion : Expr × Expr)
      (hfactors : factors.length = source.length) :
      expandAxis spec moved (readAt order shape) (readAt order factors) expansion =
        (expandAxis spec source shape factors expansion).map (readAt order) :=
    expandAxis_reordered h hdistinct hlen hfactors expansion
  have hkeep (factors : List Size) (expansion : Expr × Expr) (factors' : List Size)
      (hfactors : factors.length = source.length)
      (hexpand : expandAxis spec source shape factors expansion = .ok factors') :
      factors'.length = source.length :=
    (length_of_expandAxis hexpand).trans hfactors
  unfold expand
  rw [checkSource_reordered h hlen, map_bind_eq, ← hstart,
    foldlM_map_eq hstep hkeep List.length_replicate]

end

/-! ## Names, not positions -/

/-- What is resolved depends on the names of the axes and not on where they stand.  Let no two slots
of the source pair up, and let its axes be moved about together with their sizes, the anonymous ones
in order among themselves and numbered again.  Then every view without an axis to be inferred comes
to what it has come to before, and every expansion to the same error or to the factors that have
been moved about with the axes. -/
theorem resolves_by_name (spec : String) (hdistinct : source.Distinct)
    (hlen : source.length = shape.length) (horder : source.OrderedBy order) :
    let moved := Slots.renumbered (readAt order source)
    moved.Numbered ∧
      (∀ target : Slots, (∀ slot ∈ target, slot.isInferred = false) →
        view spec moved target (readAt order shape) = view spec source target shape) ∧
      ∀ expansions, expand spec moved expansions (readAt order shape) =
        (expand spec source expansions shape).map (readAt order) := by
  have hmoved := horder.reordered_renumbered
  refine ⟨Slots.numbered_renumbered _, fun target htarget => ?_, fun expansions => ?_⟩
  · exact view_reordered hmoved hdistinct hlen htarget
  · exact expand_reordered hmoved hdistinct hlen expansions

/-- A named axis and a number are moved past anonymous axes of sizes that differ. -/
theorem resolves_by_name_past_anonymous :
    let b : Expr := .var ⟨⟨"Batch", "b", none⟩, 0⟩
    let source : Slots := [.anonymous 0, .expr b, .anonymous 1, .expr (.lit 3)]
    let moved : Slots := [.expr (.lit 3), .anonymous 0, .anonymous 1, .expr b]
    let target : Slots := [.anonymous 1, .expr (b.mul (.lit 2)), .anonymous 0]
    let uneven : ShapeError := ⟨"_b_3", .wholeFactor "3" 3 8⟩
    source.Distinct ∧ source.OrderedBy [3, 0, 2, 1] ∧
      Slots.renumbered (readAt [3, 0, 2, 1] source) = moved ∧
      view "_b_3" source target [7, 8, 5, 3] = .ok [5, 16, 7] ∧
      view "_b_3" moved target [3, 7, 5, 8] = .ok [5, 16, 7] ∧
      expand "_b_3" source [(b, b.mul (.lit 2))] [7, 8, 5, 3] = .ok [-1, 2, -1, -1] ∧
      expand "_b_3" moved [(b, b.mul (.lit 2))] [3, 7, 5, 8] = .ok [-1, -1, -1, 2] ∧
      expand "_b_3" moved [(.lit 3, b)] [3, 7, 5, 8] = .error (.refusal uneven) := by
  intro b source moved target uneven
  have hdistinct : source.Distinct := by
    unfold Slots.Distinct
    decide
  have horder : source.OrderedBy [3, 0, 2, 1] := ⟨by decide, by decide⟩
  have htarget : ∀ slot ∈ target, slot.isInferred = false := by decide
  have hlen : source.length = ([7, 8, 5, 3] : List Size).length := rfl
  obtain ⟨-, hview, hexpand⟩ := resolves_by_name "_b_3" hdistinct hlen horder
  have hviewed : view "_b_3" source target [7, 8, 5, 3] = .ok [5, 16, 7] := by rfl
  have hexpanded : expand "_b_3" source [(b, b.mul (.lit 2))] [7, 8, 5, 3] =
      .ok [-1, 2, -1, -1] := by rfl
  have hrefused : expand "_b_3" source [(.lit 3, b)] [7, 8, 5, 3] =
      .error (.refusal uneven) := by rfl
  exact ⟨hdistinct, horder, by rfl, hviewed, (hview target htarget).trans hviewed, hexpanded,
    (hexpand _).trans (congrArg _ hexpanded), (hexpand _).trans (congrArg _ hrefused)⟩

end Resolve

end ShapeAlgebra
