import ShapeAlgebra.Proofs.Dim.Reading
import ShapeAlgebra.Proofs.Registry.Update

/-!
# The declaration of a single dimension

A declaration is refused, and then nothing is registered, or the whole listing is.  The declaration
of a single dimension goes on from there and counts what has been registered, so it can fail in a
second way: a listing of several dimensions goes through and is then refused for their number.  A
listing that cannot be read and a symbol that is taken leave the registry alone, and behind the
refusal for a number all the dimensions stand in it.
-/

namespace ShapeAlgebra.Registry

variable {r : Registry} {spec : String} {decls : List Decl} {e : ShapeError}

/-- A refusal for the number of declarations. -/
def Miscounts (e : ShapeError) : Prop := ∃ count, e.cause = .unreadable (.declarationCount count)

/-- A listing that is read declares something. -/
lemma ne_nil_of_readListing (h : readListing spec = .ok decls) : decls ≠ [] := by
  unfold readListing at h
  split at h
  · rename_i hread
    obtain rfl := Except.ok.inj h
    exact (Decl.readAll?_eq_some_iff.1 hread).valid.1
  · cases h

/-- What a declaration does with a listing that can be read: it refuses a symbol and changes
nothing, or registers the whole listing. -/
lemma insertAll_cases (r : Registry) (spec : String) (policy : Policy) (decls : List Decl) :
    (∃ symbol, r.insertAll spec policy decls = r.refused ⟨spec, .alreadyDeclared symbol⟩) ∨
      r.insertAll spec policy decls =
        ⟨.ok (r.stampedAll decls), r.registerAll decls, r.registrations decls⟩ := by
  unfold insertAll
  cases r.conflict? policy decls with
  | some symbol => exact .inl ⟨symbol, rfl⟩
  | none => exact .inr rfl

/-- What a declaration does: it is refused for something other than a number and changes nothing, or
it registers all declarations of the listing, of which there is at least one. -/
lemma declare_cases (r : Registry) (spec : String) :
    (∃ e, ¬Miscounts e ∧ r.declare spec = r.refused e) ∨
      ∃ decls, readListing spec = .ok decls ∧ decls ≠ [] ∧ r.declare spec =
        ⟨.ok (r.stampedAll decls), r.registerAll decls, r.registrations decls⟩ := by
  unfold declare declareWith
  cases hread : readListing spec with
  | ok decls =>
    rcases insertAll_cases r spec r.policy decls with ⟨symbol, hrefused⟩ | hperformed
    · refine .inl ⟨_, ?_, hrefused⟩
      rintro ⟨_, ⟨⟩⟩
    · exact .inr ⟨decls, rfl, ne_nil_of_readListing hread, hperformed⟩
  | error e =>
    refine .inl ⟨e, ?_, rfl⟩
    unfold readListing at hread
    split at hread
    · cases hread
    · obtain rfl := Except.error.inj hread
      rintro ⟨_, ⟨⟩⟩

/-- What is refused as a declaration is refused as one of a single dimension. -/
lemma declareOne_of_refused (h : r.declare spec = r.refused e) :
    r.declareOne spec = r.refused e := by
  rw [declareOne, h]
  rfl

/-- Registered declarations are handed out if there is one of them, and otherwise refused for their
number; the registry is the one with all of them in either case. -/
lemma declareOne_of_performed {events : List Event}
    (h : r.declare spec = ⟨.ok (r.stampedAll decls), r.registerAll decls, events⟩) :
    (r.declareOne spec).registry = r.registerAll decls ∧
      ((∃ d, r.stampedAll decls = [d] ∧ (r.declareOne spec).result = .ok [d]) ∨
        decls.length ≠ 1 ∧
          (r.declareOne spec).result =
            .error ⟨spec, .unreadable (.declarationCount decls.length)⟩) := by
  rw [declareOne, h]
  match decls with
  | [] => exact ⟨rfl, .inr ⟨by decide, rfl⟩⟩
  | [decl] => exact ⟨rfl, .inl ⟨r.stamped decl, rfl, rfl⟩⟩
  | first :: second :: rest =>
    refine ⟨rfl, .inr ⟨by simp, ?_⟩⟩
    rw [← length_stampedAll r]
    rfl

/-- The declaration of a single dimension that fails registers nothing, unless it is refused for the
number of declarations.  Then there are several, and all of them are registered: the registry has
been overridden from left to right by as many new dimensions. -/
theorem declareOne_error_registers_none_or_all (r : Registry) (spec : String) (e : ShapeError)
    (h : (r.declareOne spec).result = .error e) :
    (¬Miscounts e → (r.declareOne spec).registry = r) ∧
      (Miscounts e → ∃ decls dims, readListing spec = .ok decls ∧ 2 ≤ decls.length ∧
        e = ⟨spec, .unreadable (.declarationCount decls.length)⟩ ∧
        dims.map Dim.decl = decls ∧ r.Overrides dims (r.declareOne spec).registry) := by
  rcases declare_cases r spec with ⟨e', hother, hrefused⟩ | ⟨decls, hread, hne, hperformed⟩
  · rw [declareOne_of_refused hrefused] at h ⊢
    obtain rfl := Except.error.inj h
    exact ⟨fun _ => rfl, fun hcount => absurd hcount hother⟩
  · obtain ⟨hregistry, ⟨d, -, hresult⟩ | ⟨hlength, hresult⟩⟩ := declareOne_of_performed hperformed
    · rw [hresult] at h
      cases h
    · rw [hresult] at h
      obtain rfl := Except.error.inj h
      refine ⟨fun hnot => absurd ⟨_, rfl⟩ hnot, fun _ => ⟨decls, r.stampedAll decls, hread, ?_, rfl,
        map_decl_stampedAll r decls, ?_⟩⟩
      · have hpos := List.length_pos_iff.2 hne
        omega
      · rw [hregistry]
        exact overrides_registerAll r decls

/-- A registry with one dimension: its symbol is refused and changes nothing, and of a listing of
two new dimensions both are registered. -/
theorem declareOne_error_registers_none_or_all_taken_and_counted :
    let r : Registry := { table := [⟨⟨"Batch", "b", some 20⟩, 0⟩], nextStamp := 1 }
    let taken := "Other(b):3"
    let several := "Depth(d):4 Heads(h)"
    let counted : ShapeError := ⟨several, .unreadable (.declarationCount 2)⟩
    (r.declareOne taken).result = .error ⟨taken, .alreadyDeclared "b"⟩ ∧
      (r.declareOne taken).registry = r ∧
      (r.declareOne several).result = .error counted ∧
      ∃ dims, dims.map Dim.decl = [⟨"Depth", "d", some 4⟩, ⟨"Heads", "h", none⟩] ∧
        r.Overrides dims (r.declareOne several).registry := by
  intro r taken several counted
  have htaken : (r.declareOne taken).result = .error ⟨taken, .alreadyDeclared "b"⟩ := by
    decide +kernel
  have hcounted : (r.declareOne several).result = .error counted := by decide +kernel
  have hread : readListing several = .ok [⟨"Depth", "d", some 4⟩, ⟨"Heads", "h", none⟩] := by
    decide +kernel
  obtain ⟨hnothing, -⟩ := declareOne_error_registers_none_or_all r taken _ htaken
  obtain ⟨-, hall⟩ := declareOne_error_registers_none_or_all r several _ hcounted
  obtain ⟨decls, dims, hdecls, -, -, hdims, hover⟩ := hall ⟨2, rfl⟩
  rw [hread] at hdecls
  refine ⟨htaken, hnothing ?_, hcounted, dims, hdims.trans (Except.ok.inj hdecls).symm, hover⟩
  rintro ⟨_, ⟨⟩⟩

/-- Two dimensions where one is asked for are refused, and both stand in the registry. -/
theorem declareOne_registers_and_refuses :
    let r : Registry := {}
    let spec := "Batch(b):20 Depth(d):4"
    let both : Registry := { table := [⟨⟨"Batch", "b", some 20⟩, 0⟩, ⟨⟨"Depth", "d", some 4⟩, 1⟩],
                             nextStamp := 2 }
    (r.declareOne spec).result = .error ⟨spec, .unreadable (.declarationCount 2)⟩ ∧
      (r.declareOne spec).registry = both ∧ both ≠ r := by
  decide +kernel

end ShapeAlgebra.Registry
