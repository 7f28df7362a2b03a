import ShapeAlgebra.Proofs.Resolve.Expand

/-!
# Expansions written in either way

A target that is compared with the source position by position may as well be written as a list of
its changes: the axes that it asks to have another size, by their names, each with the new size.  A
name stands for the first axis of its kind, so every axis that is changed has to be that.  Then both
ways walk through the same axes in the same order.  The walk by names starts with all factors `-1`
and sets those of the changed axes one after the other, so at every axis the factors are what has
been found so far, followed by `-1` for everything that is still to come.
-/

namespace ShapeAlgebra

/-- At `position` stands an expression that stands nowhere further left. -/
def Slots.FirstOfKind (slots : Slots) (position : Nat) : Prop :=
  ∃ axis, slots[position]? = some (.expr axis) ∧
    ∀ earlier slot, earlier < position → slots[earlier]? = some slot →
      slot.pairs (.expr axis) = false

/-- The first slot of its kind is the one that is looked up. -/
lemma Slots.FirstOfKind.positionOf? {slots : Slots} {position : Nat}
    (h : slots.FirstOfKind position) :
    ∃ axis, slots[position]? = some (.expr axis) ∧ slots.positionOf? axis = some position := by
  obtain ⟨axis, haxis, hbefore⟩ := h
  obtain ⟨hlt, hget⟩ := List.getElem?_eq_some_iff.1 haxis
  refine ⟨axis, haxis, ?_⟩
  rw [positionOf?_eq_findIdx?, List.findIdx?_eq_some_iff_getElem]
  refine ⟨hlt, by rw [hget, Slot.pairs_self], fun earlier hearlier => ?_⟩
  have hslot := List.getElem?_eq_getElem (Nat.lt_trans hearlier hlt)
  exact ne_true_of_eq_false (hbefore earlier _ hearlier hslot)

namespace Resolve

variable {spec : String} {source target befores afters : Slots} {shape sizes : List Size}

/-! ## Changes -/

/-- The change from the slot `before` to the slot `after`: an expression, and another one whose
value is to be its size. -/
def change? : Slot → Slot → Option (Expr × Expr)
  | .expr axis, .expr size => if axis.same size then none else some (axis, size)
  | _, _ => none

/-- The changes from `source` to `target`, from left to right. -/
def changes (source target : Slots) : List (Expr × Expr) :=
  (source.zip target).filterMap fun (before, after) => change? before after

/-- A pair of slots that differ is one of the changes. -/
lemma changes_cons_of_eq_some {before after : Slot} {expansion : Expr × Expr}
    (h : change? before after = some expansion) :
    changes (before :: befores) (after :: afters) = expansion :: changes befores afters :=
  List.filterMap_cons_some h

/-- A pair of slots that do not differ is not among the changes. -/
lemma changes_cons_of_eq_none {before after : Slot} (h : change? before after = none) :
    changes (before :: befores) (after :: afters) = changes befores afters :=
  List.filterMap_cons_none h

/-- An axis of which nothing is asked is no change and keeps its size. -/
lemma slotGrowth_of_askedAt?_eq_none (spec : String) (source : Slots) (shape : List Size)
    {before after : Slot}
    (h : askedAt? (before :: befores) (after :: afters) 0 = none) (n : Option Size) :
    change? before after = none ∧ slotGrowth spec source shape before after n = .ok (-1) := by
  cases after with
  | anonymous _ => exact ⟨by cases before <;> rfl, rfl⟩
  | inferred => exact ⟨by cases before <;> rfl, rfl⟩
  | expr e =>
    have hpairs : before.pairs (.expr e) = true := by
      by_contra hnot
      simp [askedAt?, hnot] at h
    obtain ⟨axis, rfl, hsame⟩ := Slot.pairs_expr_iff.1 hpairs
    exact ⟨if_pos hsame, if_pos hpairs⟩

/-- An axis that is asked for another size is a change, and grows to that size. -/
lemma slotGrowth_of_askedAt?_eq_some (spec : String) (source : Slots) (shape : List Size)
    {axis e : Expr} {after : Slot}
    (h : askedAt? (.expr axis :: befores) (after :: afters) 0 = some e) (n : Size) :
    change? (.expr axis) after = some (axis, e) ∧
      slotGrowth spec source shape (.expr axis) after (some n) =
        evalOn spec source shape e >>= growth spec axis.symbolic n := by
  cases after with
  | anonymous _ => cases h
  | inferred => cases h
  | expr size =>
    have hdiffers : ¬(Slot.expr axis).pairs (.expr size) = true := by
      intro hpairs
      simp [askedAt?, hpairs] at h
    have hsize : askedAt? (.expr axis :: befores) (.expr size :: afters) 0 = some size :=
      if_neg hdiffers
    obtain rfl := Option.some.inj (hsize.symm.trans h)
    exact ⟨if_neg hdiffers, if_neg hdiffers⟩

/-! ## Walking along together -/

/-- Of factors that are still unset the first one is set. -/
lemma set_behind (found : List Size) (factor : Size) (count : Nat) :
    (found ++ List.replicate (count + 1) (-1)).set found.length factor =
      (found ++ [factor]) ++ List.replicate count (-1) := by
  rw [List.set_append_right _ _ le_rfl, Nat.sub_self, List.replicate_succ, List.set_cons_zero,
    List.append_cons]

variable {front : Slots} {found : List Size} {before after : Slot} {n : Size}

/-- Whether it is a change or not, one more slot adds its factor to those that have been found. -/
lemma foldlM_changes_cons (hfront : front ++ before :: befores = source)
    (hfound : found.length = front.length) (hn : shape[front.length]? = some n)
    (hfirst : ∀ e, askedAt? (before :: befores) (after :: afters) 0 = some e →
      source.FirstOfKind front.length) :
    (changes (before :: befores) (after :: afters)).foldlM (expandAxis spec source shape)
        (found ++ List.replicate (befores.length + 1) (-1)) =
      slotGrowth spec source shape before after (some n) >>= fun factor =>
        (changes befores afters).foldlM (expandAxis spec source shape)
          ((found ++ [factor]) ++ List.replicate befores.length (-1)) := by
  cases hasked : askedAt? (before :: befores) (after :: afters) 0 with
  | none =>
    obtain ⟨hnone, hkeep⟩ := slotGrowth_of_askedAt?_eq_none spec source shape hasked (some n)
    rw [changes_cons_of_eq_none hnone, hkeep, List.replicate_succ, List.append_cons]
    rfl
  | some e =>
    obtain ⟨axis, haxis, hposition⟩ := (hfirst e hasked).positionOf?
    have hbefore : before = .expr axis := by
      rw [← hfront, List.getElem?_append_right le_rfl, Nat.sub_self] at haxis
      exact Option.some.inj haxis
    subst hbefore
    obtain ⟨hsome, hgrow⟩ := slotGrowth_of_askedAt?_eq_some spec source shape hasked n
    rw [changes_cons_of_eq_some hsome, hgrow, List.foldlM_cons,
      expandAxis_of_positionOf? hposition hn, bind_map_eq]
    simp only [← hfound, set_behind]

/-- The induction is on the slots that are left behind those in `front`, whose factors have been
`found`. -/
lemma foldlM_changes (hfront : front ++ befores = source) (hfound : found.length = front.length)
    (hshape : shape.drop front.length = sizes) (hafters : befores.length = afters.length)
    (hsizes : befores.length = sizes.length)
    (hfirst : ∀ index e, askedAt? befores afters index = some e →
      source.FirstOfKind (front.length + index)) :
    (changes befores afters).foldlM (expandAxis spec source shape)
        (found ++ List.replicate befores.length (-1)) =
      (slotGrowths spec source shape befores afters sizes).map (found ++ ·) := by
  induction befores generalizing front found afters sizes with
  | nil => rfl
  | cons before befores ih =>
    obtain ⟨after, afters, rfl⟩ := List.exists_cons_of_length_eq_add_one hafters.symm
    obtain ⟨n, sizes, rfl⟩ := List.exists_cons_of_length_eq_add_one hsizes.symm
    have hn : shape[front.length]? = some n := by
      rw [← List.head?_drop, hshape]
      rfl
    have hfront' : (front ++ [before]) ++ befores = source := by
      rw [← List.append_cons, hfront]
    -- whatever the first factor is, the others are set behind it
    have hrest (factor : Size) :
        (changes befores afters).foldlM (expandAxis spec source shape)
            ((found ++ [factor]) ++ List.replicate befores.length (-1)) =
          (slotGrowths spec source shape befores afters sizes).map ((found ++ [factor]) ++ ·) := by
      refine ih hfront' ?_ ?_ (Nat.succ.inj hafters) (Nat.succ.inj hsizes)
        fun index e hasked => ?_
      · rw [List.length_append, List.length_append, hfound]
        rfl
      · rw [List.length_append, List.length_singleton, ← List.tail_drop, hshape]
        rfl
      · have hnext := hfirst (index + 1) e hasked
        rwa [List.length_append, List.length_singleton, Nat.add_assoc, Nat.add_comm 1]
    rw [List.length_cons, foldlM_changes_cons hfront hfound hn fun e hasked => hfirst 0 e hasked]
    change _ = (slotGrowth spec source shape before after (some n) >>= fun factor =>
      slotGrowths spec source shape befores afters sizes >>= fun factors =>
        .ok (factor :: factors)).map (found ++ ·)
    simp only [hrest, map_bind_eq, bind_ok_eq_map, map_map_eq]
    simp only [List.append_assoc, List.singleton_append]

/-! ## Agreement -/

/-- Expanding a source to a target of the same length position by position, and expanding the axes
that the target changes by their names, from left to right, come to the same: the same factors, or
the same error for the same axis.  Every axis that is changed has to be the first one of its kind,
since that is the one that its name stands for. -/
theorem expand_changes_eq_expandPositional (spec : String) (shape : List Size)
    (hlen : source.length = target.length)
    (hfirst : ∀ position e, askedAt? source target position = some e →
      source.FirstOfKind position) :
    expand spec source (changes source target) shape =
      expandPositional spec source target shape := by
  unfold expand expandPositional
  cases hcheck : checkSource spec source shape with
  | error e => rfl
  | ok _ =>
    have hsource := describes_of_checkSource hcheck
    have hnamed (index : Nat) (e : Expr) (hasked : askedAt? source target index = some e) :
        source.FirstOfKind (([] : Slots).length + index) := by
      rw [List.length_nil, Nat.zero_add]
      exact hfirst index e hasked
    have hwalk : (changes source target).foldlM (expandAxis spec source shape)
          ([] ++ List.replicate source.length (-1)) =
        (slotGrowths spec source shape source target shape).map ([] ++ ·) :=
      foldlM_changes (List.nil_append source) rfl List.drop_zero hlen hsource.length_eq hnamed
    rw [if_neg (not_not.2 hlen)]
    exact hwalk.trans (congrFun Except.map_id _)

/-- Of two equal sizes the first one is changed, by a whole factor on one shape and by none on the
other. -/
theorem expand_changes_eq_expandPositional_repeated_size :
    let source : Slots := [.expr (.lit 2), .anonymous 0, .expr (.lit 2)]
    let target : Slots := [.expr (.lit 6), .anonymous 0, .expr (.lit 2)]
    let uneven : ShapeError := ⟨"2_2 -> 6_2", .wholeFactor "2" 4 6⟩
    changes source target = [(.lit 2, .lit 6)] ∧
      expandPositional "2_2 -> 6_2" source target [2, 5, 2] = .ok [3, -1, -1] ∧
      expand "2_2 -> 6_2" source [(.lit 2, .lit 6)] [2, 5, 2] = .ok [3, -1, -1] ∧
      expandPositional "2_2 -> 6_2" source target [4, 5, 2] = .error (.refusal uneven) ∧
      expand "2_2 -> 6_2" source [(.lit 2, .lit 6)] [4, 5, 2] = .error (.refusal uneven) := by
  intro source target uneven
  have hfirst : ∀ position e, askedAt? source target position = some e →
      source.FirstOfKind position := by
    intro position e hasked
    match position with
    | 0 => exact ⟨.lit 2, rfl, fun _ _ hlt => absurd hlt (Nat.not_lt_zero _)⟩
    | 1 => cases hasked
    | 2 => cases hasked
    | _ + 3 => cases hasked
  have hchanges : changes source target = [(.lit 2, .lit 6)] := by rfl
  have hwhole : expandPositional "2_2 -> 6_2" source target [2, 5, 2] = .ok [3, -1, -1] := by rfl
  have huneven : expandPositional "2_2 -> 6_2" source target [4, 5, 2] =
      .error (.refusal uneven) := by rfl
  have hsame (shape : List Size) : expand "2_2 -> 6_2" source [(.lit 2, .lit 6)] shape =
      expandPositional "2_2 -> 6_2" source target shape :=
    hchanges ▸ expand_changes_eq_expandPositional "2_2 -> 6_2" shape rfl hfirst
  exact ⟨hchanges, hwhole, (hsame _).trans hwhole, huneven, (hsame _).trans huneven⟩

end Resolve

end ShapeAlgebra
