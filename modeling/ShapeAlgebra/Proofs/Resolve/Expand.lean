import ShapeAlgebra.Proofs.Resolve.Source
import ShapeAlgebra.Proofs.Slot.Position
import ShapeAlgebra.Resolve.Expand

/-!
# The contract of an expansion

An axis grows from one size to another by the factor whose product with the old size is the new
one, and only from a positive size.  Position by position, `GrowsBy` says what the factor of an
axis is: `-1` where the target leaves the axis alone, and the factor to the value of the target
everywhere else.  An expansion never traps.

The two ways to write an expansion differ only in what they ask of each axis: `askedAt?` compares
the target with the source, and `lastAsked?` takes the last expansion that names the axis.  Either
way the factors `Follows` what is asked.
-/

namespace ShapeAlgebra.Resolve

variable {spec : String} {source target : Slots} {shape : List Size} {trapped : Prop}

/-- A factor takes a positive old size to the new one. -/
lemma meets_growth {slot : String} {before after : Size} :
    Meets (growth spec slot before after)
      (fun factor => 0 < before ∧ after.toInt = factor.toInt * before.toInt)
      (ReportedFor spec trapped) := by
  unfold growth
  split
  · rfl
  · rename_i hbefore
    have hpos : 0 < before := Int64.not_le.1 hbefore
    have htrap {p : Prop} : before = 0 ∨ before = -1 ∧ after = Int64.minValue → p :=
      fun h => absurd h (Size.not_trapped_of_pos hpos)
    refine (Size.meets_remainder htrap).bind fun rest hrest => ?_
    split
    · rename_i hzero
      rw [Size.eq_zero_iff, hrest.2] at hzero
      refine (Size.meets_quotient htrap).imp (fun factor hfactor => ⟨hpos, ?_⟩) fun _ h => h
      rw [hfactor.2]
      exact (Int.tdiv_mul_cancel_of_tmod_eq_zero hzero).symm
    · rfl

/-- The factor of an axis of size `n` that `before` describes on the source and `after` on the
target. -/
def GrowsBy (source : Slots) (shape : List Size) (before after : Slot) (n factor : Size) : Prop :=
  match after with
  | .expr e =>
    if before.pairs after then factor = -1
    else ∃ size, e.evalIn (binding source shape) = .ok size ∧ 0 < n ∧
      size.toInt = factor.toInt * n.toInt
  | _ => factor = -1

/-- The factor of an axis is what its two slots ask for. -/
lemma meets_slotGrowth {before after : Slot} {n : Size} :
    Meets (slotGrowth spec source shape before after (some n))
      (GrowsBy source shape before after n) (ReportedFor spec trapped) := by
  unfold slotGrowth GrowsBy
  cases after with
  | anonymous _ => rfl
  | inferred => rfl
  | expr e =>
    dsimp only
    split
    · rfl
    · refine meets_evalOn.bind fun size hsize => ?_
      exact meets_growth.imp (fun factor hfactor => ⟨size, hsize, hfactor⟩) fun _ h => h

/-- The factors of all axes are what their slots ask for. -/
lemma meets_slotGrowths {befores afters : Slots} {sizes : List Size}
    (hafters : befores.length = afters.length) (hsizes : befores.length = sizes.length) :
    Meets (slotGrowths spec source shape befores afters sizes)
      (List.Forall₂ (fun axis factor => GrowsBy source shape axis.1 axis.2.1 axis.2.2 factor)
        (befores.zip (afters.zip sizes)))
      (ReportedFor spec trapped) := by
  induction befores generalizing afters sizes with
  | nil => exact .nil
  | cons before befores ih =>
    obtain ⟨after, afters, rfl⟩ := List.exists_cons_of_length_eq_add_one hafters.symm
    obtain ⟨n, sizes, rfl⟩ := List.exists_cons_of_length_eq_add_one hsizes.symm
    refine meets_slotGrowth.bind fun factor hfactor => ?_
    refine (ih (Nat.succ.inj hafters) (Nat.succ.inj hsizes)).bind fun factors hfactors => ?_
    exact .cons hfactor hfactors

/-- What the factors of an expansion are, position by position. -/
theorem meets_expandPositional :
    Meets (expandPositional spec source target shape)
      (fun factors => Describes source shape ∧ source.length = target.length ∧
        List.Forall₂ (fun axis factor => GrowsBy source shape axis.1 axis.2.1 axis.2.2 factor)
          (source.zip (target.zip shape)) factors)
      (ReportedFor spec False) := by
  refine meets_checkSource.bind fun _ hsource => ?_
  split
  · rfl
  · rename_i hlen
    have htarget : source.length = target.length := not_not.1 hlen
    refine (meets_slotGrowths htarget hsource.length_eq).imp (fun factors h => ?_) fun _ h => h
    exact ⟨hsource, htarget, h⟩

/-! ## Factors that follow what is asked -/

/-- The expression whose value the axis at `position` is to have as its size, when the target is
compared with the source.  Nothing is asked of an axis that the target leaves alone. -/
def askedAt? (source target : Slots) (position : Nat) : Option Expr :=
  match source[position]?, target[position]? with
  | some before, some (.expr e) => if before.pairs (.expr e) then none else some e
  | _, _ => none

/-- The new size in the last of the expansions that name the axis at `position`. -/
def lastAsked? (source : Slots) (expansions : List (Expr × Expr)) (position : Nat) :
    Option Expr :=
  (expansions.reverse.find? fun expansion =>
    Slots.positionOf? source expansion.1 == some position).map Prod.snd

/-- The factor of an axis of size `n` that is asked to have the value of `asked` as its size. -/
def ScalesTo (source : Slots) (shape : List Size) (asked : Option Expr) (n factor : Size) : Prop :=
  match asked with
  | none => factor = -1
  | some e => ∃ size, e.evalIn (binding source shape) = .ok size ∧ 0 < n ∧
      size.toInt = factor.toInt * n.toInt

/-- There is a factor for each axis, and it does what is asked of the axis. -/
structure Follows (source : Slots) (shape : List Size) (asked : Nat → Option Expr)
    (factors : List Size) : Prop where
  length_eq : factors.length = source.length
  scalesTo : ∀ position n factor, shape[position]? = some n → factors[position]? = some factor →
    ScalesTo source shape (asked position) n factor

/-- A factor that follows from two slots scales the axis to what is asked of it. -/
lemma GrowsBy.scalesTo {before after : Slot} {n factor : Size} {position : Nat}
    (h : GrowsBy source shape before after n factor) (hbefore : source[position]? = some before)
    (hafter : target[position]? = some after) :
    ScalesTo source shape (askedAt? source target position) n factor := by
  unfold askedAt?
  rw [hbefore, hafter]
  cases after with
  | expr e =>
    dsimp only [GrowsBy] at h ⊢
    split
    · rename_i hpairs
      rw [if_pos hpairs] at h
      exact h
    · rename_i hpairs
      rw [if_neg hpairs] at h
      exact h
  | anonymous _ => exact h
  | inferred => exact h

/-- The factors of an expansion position by position follow the target. -/
lemma follows_of_growsBy {factors : List Size} (htarget : source.length = target.length)
    (hsource : source.length = shape.length)
    (h : List.Forall₂ (fun axis factor => GrowsBy source shape axis.1 axis.2.1 axis.2.2 factor)
      (source.zip (target.zip shape)) factors) :
    Follows source shape (askedAt? source target) factors := by
  constructor
  · rw [← h.length_eq, List.length_zip, List.length_zip, ← htarget, ← hsource, Nat.min_self,
      Nat.min_self]
  · intro position n factor hn hfactor
    have hlt : position < shape.length := (List.getElem?_eq_some_iff.1 hn).1
    obtain ⟨before, hbefore⟩ : ∃ before, source[position]? = some before :=
      ⟨_, List.getElem?_eq_getElem (hsource ▸ hlt)⟩
    obtain ⟨after, hafter⟩ : ∃ after, target[position]? = some after :=
      ⟨_, List.getElem?_eq_getElem (htarget ▸ hsource ▸ hlt)⟩
    have haxis : (source.zip (target.zip shape))[position]? = some (before, after, n) :=
      List.getElem?_zip_eq_some.2 ⟨hbefore, List.getElem?_zip_eq_some.2 ⟨hafter, hn⟩⟩
    exact (rel_of_getElem? h haxis hfactor).scalesTo hbefore hafter

/-! ## Named axes -/

/-- One more expansion counts for the axis that it names, and for no other. -/
lemma lastAsked?_append {expansions : List (Expr × Expr)} {axis size : Expr} {position : Nat} :
    lastAsked? source (expansions ++ [(axis, size)]) position =
      if Slots.positionOf? source axis = some position then some size
      else lastAsked? source expansions position := by
  unfold lastAsked?
  rw [List.reverse_append, List.reverse_singleton, List.singleton_append, List.find?_cons]
  by_cases h : Slots.positionOf? source axis = some position
  · simp [h]
  · have hne : (Slots.positionOf? source axis == some position) = false := by simpa using h
    rw [hne, if_neg h]

/-- Without expansions nothing is asked of any axis. -/
lemma Follows.nil :
    Follows source shape (lastAsked? source []) (List.replicate source.length (-1)) := by
  refine ⟨List.length_replicate, fun position n factor _ hfactor => ?_⟩
  exact List.eq_of_mem_replicate (List.mem_of_getElem? hfactor)

/-- An axis that is named is found at the first position with the same expression. -/
lemma meets_namedAxis {axis : Expr} :
    Meets (namedAxis spec source axis)
      (fun position => Slots.positionOf? source axis = some position)
      (ReportedFor spec trapped) := by
  unfold namedAxis
  cases h : Slots.positionOf? source axis with
  | some position => rfl
  | none => rfl

/-- An expansion sets the factor of the axis that its name stands for. -/
lemma expandAxis_of_positionOf? {axis size : Expr} {position : Nat} {n : Size}
    (hposition : Slots.positionOf? source axis = some position) (hn : shape[position]? = some n)
    (factors : List Size) :
    expandAxis spec source shape factors (axis, size) =
      (evalOn spec source shape size >>= growth spec axis.symbolic n).map
        (factors.set position) := by
  have hnamed : namedAxis spec source axis = .ok position := by
    rw [namedAxis, hposition]
  have hread : (Checked.elementAt shape position : Checked ShapeError Size) = .ok n :=
    Checked.elementAt_eq_ok_iff.2 hn
  have hgrowth (after : Size) :
      (Checked.elementAt shape position >>= fun before =>
          growth spec axis.symbolic before after >>= fun factor =>
            .ok (factors.set position factor)) =
        (growth spec axis.symbolic n after).map (factors.set position) := by
    rw [hread]
    exact bind_ok_eq_map _ _
  rw [map_bind_eq, ← funext hgrowth, expandAxis]
  change (namedAxis spec source axis >>= _) = _
  rw [hnamed]
  rfl

/-- An expansion changes one factor and adds none. -/
lemma length_of_expandAxis {factors factors' : List Size} {expansion : Expr × Expr}
    (h : expandAxis spec source shape factors expansion = .ok factors') :
    factors'.length = factors.length := by
  obtain ⟨_, _, h⟩ := bind_eq_ok_iff.1 h
  obtain ⟨_, _, h⟩ := bind_eq_ok_iff.1 h
  obtain ⟨_, _, h⟩ := bind_eq_ok_iff.1 h
  obtain ⟨_, _, h⟩ := bind_eq_ok_iff.1 h
  obtain rfl := Except.ok.inj h
  exact List.length_set

/-- One more expansion sets the factor of the axis that it names and no other. -/
lemma meets_expandAxis {done : List (Expr × Expr)} {factors : List Size}
    (hlen : source.length = shape.length)
    (h : Follows source shape (lastAsked? source done) factors) (expansion : Expr × Expr) :
    Meets (expandAxis spec source shape factors expansion)
      (Follows source shape (lastAsked? source (done ++ [expansion])))
      (ReportedFor spec trapped) := by
  obtain ⟨axis, size⟩ := expansion
  refine meets_namedAxis.bind fun named hnamed => ?_
  refine meets_evalOn.bind fun after hafter => ?_
  have hlt : named < shape.length := by
    rw [← hlen]
    exact Slots.lt_length_of_positionOf? hnamed
  refine (meets_elementAt hlt).bind fun before hbefore => ?_
  refine meets_growth.bind fun factor hfactor => ?_
  refine ⟨List.length_set.trans h.length_eq, fun position n factor' hn hfactor' => ?_⟩
  rw [lastAsked?_append, hnamed]
  -- the new expansion is the last one of the axis that it names; all others keep theirs
  by_cases hposition : named = position
  · subst hposition
    have hset : named < factors.length := by
      rw [h.length_eq, hlen]
      exact hlt
    rw [List.getElem?_set_self hset] at hfactor'
    obtain rfl := Option.some.inj hfactor'
    rw [hbefore] at hn
    obtain rfl := Option.some.inj hn
    rw [if_pos rfl]
    exact ⟨after, hafter, hfactor⟩
  · rw [List.getElem?_set_ne hposition] at hfactor'
    rw [if_neg fun heq => hposition (Option.some.inj heq)]
    exact h.scalesTo position n factor' hn hfactor'

/-- What the factors of an expansion of named axes are. -/
theorem meets_expand {expansions : List (Expr × Expr)} :
    Meets (expand spec source expansions shape)
      (fun factors => Describes source shape ∧
        Follows source shape (lastAsked? source expansions) factors)
      (ReportedFor spec False) := by
  refine meets_checkSource.bind fun _ hsource => ?_
  have hstep : ∀ done expansion factors, Follows source shape (lastAsked? source done) factors →
      Meets (expandAxis spec source shape factors expansion)
        (Follows source shape (lastAsked? source (done ++ [expansion]))) (ReportedFor spec False) :=
    fun done expansion factors h => meets_expandAxis hsource.length_eq h expansion
  exact (Meets.foldlM hstep Follows.nil).imp (fun factors h => ⟨hsource, h⟩) fun _ h => h

end ShapeAlgebra.Resolve
