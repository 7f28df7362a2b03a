import ShapeAlgebra.Proofs.Spec.Restate

/-!
# The specs that errors name

Whoever reads a spec finds the same spec in the error.  For the parts of a spec this is the law of
restating at its one fixed point: a side that is read as a part of the very spec it belongs to has
its errors restated for that spec already.  The operations of a registry and the readers of whole
specs are put together from such parts, so the errors are followed through each of them.
-/

namespace ShapeAlgebra

variable {α β : Type} {r : Registry} {mode : NumberMode} {spec : String}

/-- Every error of `x` is reported for `spec`. -/
def ErrorsName (spec : String) (x : Except ShapeError α) : Prop :=
  ∀ e, x = .error e → e.spec = spec

/-- A value reports nothing. -/
lemma errorsName_ok (a : α) : ErrorsName spec (.ok a) := by
  intro e he
  cases he

/-- An error that is raised for a spec is reported for it. -/
lemma errorsName_error (cause : ShapeError.Cause) :
    ErrorsName spec (.error ⟨spec, cause⟩ : Except ShapeError α) := by
  intro e he
  obtain rfl := Except.error.inj he
  rfl

/-- A restated error is reported for the spec it is restated for. -/
lemma errorsName_mapError (x : Except ShapeError α) :
    ErrorsName spec (x.mapError (ShapeError.inSpec spec)) := by
  cases x with
  | ok a => exact errorsName_ok a
  | error e => exact errorsName_error e.cause

namespace ErrorsName

/-- The error of a sequence is that of one of its parts. -/
lemma bind {x : Except ShapeError α} {f : α → Except ShapeError β} (h : ErrorsName spec x)
    (hf : ∀ a, ErrorsName spec (f a)) : ErrorsName spec (x >>= f) := by
  intro e he
  rcases bind_eq_error_iff.1 he with hx | ⟨a, _, ha⟩
  · exact h e hx
  · exact hf a e ha

/-- Element by element, the error of a list is that of one element. -/
lemma mapM {f : α → Except ShapeError β} (h : ∀ a, ErrorsName spec (f a)) (as : List α) :
    ErrorsName spec (as.mapM f) := by
  intro e he
  obtain ⟨_, a, _, _, _, ha⟩ := mapM_eq_error he
  exact h a e ha

/-- An error that is passed on names what it named before. -/
lemma of_eq_error {x : Except ShapeError α} (h : ErrorsName spec x) {e : ShapeError}
    (hx : x = .error e) : ErrorsName spec (.error e : Except ShapeError β) := by
  intro e' he'
  obtain rfl := Except.error.inj he'
  exact h e hx

end ErrorsName

/-! ## Parts of a spec -/

namespace Registry

/-- Resolving a symbol reports errors for the spec that uses it. -/
lemma errorsName_resolve (symbol : String) : ErrorsName spec (r.resolve spec symbol) := by
  rw [resolve_restate r spec spec]
  exact errorsName_mapError _

/-- Reading an expression reports errors for the spec that it is a part of. -/
lemma errorsName_readExpr (cs : List Char) : ErrorsName spec (r.readExpr spec cs) := by
  rw [readExpr_restate r spec spec]
  exact errorsName_mapError _

end Registry

namespace Spec

/-- Reading a side reports errors for the whole spec. -/
lemma errorsName_readSide (side : List Char) : ErrorsName spec (readSide r mode spec side) := by
  rw [readSide_restate r mode spec spec]
  exact errorsName_mapError _

/-! ## Whole specs -/

/-- Reading a spec reports errors for it. -/
lemma errorsName_read : ErrorsName spec (read r mode spec) := by
  unfold read
  dsimp only
  split
  · refine (errorsName_readSide _).bind fun source => ?_
    exact (errorsName_readSide _).bind fun target => errorsName_ok _
  · exact (errorsName_readSide _).bind fun slots => errorsName_ok _

/-- Reading a chain reports errors for all of it. -/
lemma errorsName_readChain : ErrorsName spec (readChain r spec) :=
  ErrorsName.mapM errorsName_readSide _

/-- A shape in place of a transform is reported for the spec. -/
lemma errorsName_sides (s : Spec) : ErrorsName spec (s.sides spec) := by
  cases s with
  | shape form slots => exact errorsName_error _
  | transform source target => exact errorsName_ok _

/-- A transform in place of a shape is reported for the spec. -/
lemma errorsName_single (s : Spec) : ErrorsName spec (s.single spec) := by
  cases s with
  | shape form slots => exact errorsName_ok _
  | transform source target => exact errorsName_error _

end Spec

/-- A slot that is not allowed in an annotation is reported for the spec. -/
lemma Slots.errorsName_toShape (slots : Slots) : ErrorsName spec (Slots.toShape spec slots) := by
  refine ErrorsName.mapM (fun slot => ?_) slots
  cases slot with
  | expr e => exact errorsName_ok e
  | anonymous ordinal => exact errorsName_error _
  | inferred => exact errorsName_error _

namespace Registry

/-- An expression by itself is reported as it was passed in, blanks included. -/
lemma errorsName_expr : ErrorsName spec (r.expr spec) := errorsName_readExpr _

/-- Reading a transform reports errors for it. -/
lemma errorsName_readTransform : ErrorsName spec (r.readTransform mode spec) :=
  Spec.errorsName_read.bind Spec.errorsName_sides

/-- Reading an annotation reports errors for it. -/
lemma errorsName_readShape : ErrorsName spec (r.readShape spec) :=
  (Spec.errorsName_read.bind Spec.errorsName_single).bind Slots.errorsName_toShape

/-- Checking a shape reports errors for the annotation, not for the shape that it was read as. -/
lemma errorsName_checkShape (concrete : List Size) :
    ErrorsName spec (r.checkShape spec concrete) :=
  errorsName_readShape.bind fun _ => errorsName_mapError _

/-! ## Operations of a registry -/

/-- Looking up symbols reports errors for the list of them. -/
lemma errorsName_lookup : ErrorsName spec (r.lookup spec) :=
  ErrorsName.mapM (fun _ => errorsName_resolve _) _

/-- Reading a listing reports errors for it. -/
lemma errorsName_readListing : ErrorsName spec (readListing spec) := by
  unfold readListing
  split
  · exact errorsName_ok _
  · exact errorsName_error _

/-- Inserting reports errors for the spec that it is told. -/
lemma errorsName_insertAll (policy : Policy) (decls : List Decl) :
    ErrorsName spec (r.insertAll spec policy decls).result := by
  unfold insertAll
  split
  · exact errorsName_error _
  · exact errorsName_ok _

/-- Declaring reports errors for the listing. -/
lemma errorsName_declareWith (policy : Policy) :
    ErrorsName spec (r.declareWith policy spec).result := by
  unfold declareWith
  split
  · exact errorsName_insertAll policy _
  · rename_i e he
    exact errorsName_readListing.of_eq_error he

/-- Looking up what is to be resized reports errors for the listing. -/
lemma errorsName_resizings : ErrorsName spec (r.resizings spec) :=
  errorsName_readListing.bind fun updates =>
    ErrorsName.mapM (fun _ => (errorsName_resolve _).bind fun _ => errorsName_ok _) updates

/-- Changing sizes reports errors for the listing. -/
lemma errorsName_updateSizes : ErrorsName spec (r.updateSizes spec).result := by
  unfold updateSizes
  split
  · exact errorsName_ok _
  · rename_i e he
    exact errorsName_resizings.of_eq_error he

end Registry

end ShapeAlgebra
