import ShapeAlgebra.Proofs.Resolve.Source
import ShapeAlgebra.Resolve.Align

/-!
# The contract of an alignment

An alignment that is resolved gives every slot of its target a size: that of an axis of the source,
or one.  It never traps.  The sizes of the source stand in their order among the ones, so that every
product on the way through the sizes is one on the way through the shape.
-/

namespace ShapeAlgebra.Resolve

variable {spec : String} {source target : Slots} {shape : List Size} {trapped : Prop}

/-- The sizes of `target` are ones and sizes of `shape`. -/
structure FilledUp (shape : List Size) (target : Slots) (sizes : List Size) : Prop where
  length_eq : sizes.length = target.length
  mem : ∀ n ∈ sizes, n = 1 ∨ n ∈ shape

/-- One more slot takes one more size, which is one or a size of the shape. -/
lemma FilledUp.cons {slot : Slot} {n : Size} {sizes : List Size} (hn : n = 1 ∨ n ∈ shape)
    (h : FilledUp shape target sizes) : FilledUp shape (slot :: target) (n :: sizes) := by
  constructor
  · rw [List.length_cons, List.length_cons, h.length_eq]
  · intro m hm
    rcases List.mem_cons.1 hm with rfl | hm
    · exact hn
    · exact h.mem m hm

/-- What is filled up with sizes of a shape is filled up with those of a larger one. -/
lemma FilledUp.mono {shape' sizes : List Size} (h : FilledUp shape target sizes)
    (hsub : shape ⊆ shape') : FilledUp shape' target sizes :=
  ⟨h.length_eq, fun n hn => (h.mem n hn).imp_right fun hmem => hsub hmem⟩

/-- Placing axes fills the target up. -/
lemma meets_placeAxes {bad : Fault ShapeError → Prop} (hlen : source.length = shape.length) :
    Meets (placeAxes source shape target) (fun placed => FilledUp shape target placed.1) bad := by
  induction target generalizing source shape with
  | nil => exact ⟨rfl, fun n hn => absurd hn List.not_mem_nil⟩
  | cons slot target ih =>
    cases source with
    | nil =>
      refine (ih hlen).bind fun placed hplaced => ?_
      exact hplaced.cons (.inl rfl)
    | cons axis axes =>
      obtain ⟨n, rest, rfl⟩ := List.exists_cons_of_length_eq_add_one hlen.symm
      simp only [placeAxes]
      split
      · refine (ih (Nat.succ.inj hlen)).bind fun placed hplaced => ?_
        exact (hplaced.mono (List.subset_cons_self n rest)).cons (.inr List.mem_cons_self)
      · refine (ih hlen).bind fun placed hplaced => ?_
        exact hplaced.cons (.inl rfl)

/-- What the sizes of an alignment are. -/
theorem meets_align :
    Meets (align spec source target shape)
      (fun sizes => Describes source shape ∧ FilledUp shape target sizes)
      (ReportedFor spec False) := by
  refine meets_checkSource.bind fun _ hsource => ?_
  refine (meets_placeAxes hsource.length_eq).bind fun placed hplaced => ?_
  obtain ⟨sizes, left⟩ := placed
  cases left with
  | nil => exact ⟨hsource, hplaced⟩
  | cons missing _ => rfl

/-! ## Padding -/

/-- The second list has the sizes of the first one in their order, with ones put in. -/
inductive Padded : List Size → List Size → Prop
  | nil : Padded [] []
  | keep {shape sizes : List Size} (n : Size) (h : Padded shape sizes) :
    Padded (n :: shape) (n :: sizes)
  | insert {shape sizes : List Size} (h : Padded shape sizes) : Padded shape (1 :: sizes)

namespace Padded

variable {sizes : List Size}

/-- Every size of a padded shape is one or a size of the shape. -/
lemma mem (h : Padded shape sizes) : ∀ n ∈ sizes, n = 1 ∨ n ∈ shape := by
  induction h with
  | nil => exact fun n hn => absurd hn List.not_mem_nil
  | keep m _ ih =>
    intro n hn
    rcases List.mem_cons.1 hn with rfl | hmem
    · exact .inr List.mem_cons_self
    · exact (ih n hmem).imp_right (List.mem_cons_of_mem m)
  | insert _ ih =>
    intro n hn
    rcases List.mem_cons.1 hn with rfl | hmem
    · exact .inl rfl
    · exact ih n hmem

/-- Ones change no product on the way. -/
lemma productFrom?_eq (h : Padded shape sizes) (start : Size) :
    Size.productFrom? start sizes = Size.productFrom? start shape := by
  induction h generalizing start with
  | nil => rfl
  | keep n _ ih =>
    rw [Size.productFrom?_cons, Size.productFrom?_cons]
    exact Option.bind_congr fun p _ => ih p
  | insert _ ih =>
    have hone : Size.mul? start 1 = some start := by
      rw [Size.mul?_eq_some_iff, Int64.toInt_one, Int.mul_one]
    rw [Size.productFrom?_cons, hone, Option.bind_some, ih]

end Padded

/-- If no slot of the target is left when the axes are placed, the result is the shape padded with
ones. -/
lemma meets_placeAxes_padded {bad : Fault ShapeError → Prop}
    (hlen : source.length = shape.length) :
    Meets (placeAxes source shape target) (fun placed => placed.2 = [] → Padded shape placed.1)
      bad := by
  induction target generalizing source shape with
  | nil =>
    rintro rfl
    obtain rfl := List.eq_nil_of_length_eq_zero hlen.symm
    exact .nil
  | cons slot target ih =>
    cases source with
    | nil => exact (ih hlen).bind fun placed hplaced hleft => (hplaced hleft).insert
    | cons axis axes =>
      obtain ⟨n, rest, rfl⟩ := List.exists_cons_of_length_eq_add_one hlen.symm
      simp only [placeAxes]
      split
      · exact (ih (Nat.succ.inj hlen)).bind fun placed hplaced hleft => (hplaced hleft).keep n
      · exact (ih hlen).bind fun placed hplaced hleft => (hplaced hleft).insert

/-- An alignment pads the shape with ones. -/
theorem meets_align_padded :
    Meets (align spec source target shape) (Padded shape) (ReportedFor spec False) := by
  refine meets_checkSource.bind fun _ hsource => ?_
  refine (meets_placeAxes_padded hsource.length_eq).bind fun placed hplaced => ?_
  obtain ⟨sizes, left⟩ := placed
  cases left with
  | nil => exact hplaced rfl
  | cons missing _ => rfl

end ShapeAlgebra.Resolve
