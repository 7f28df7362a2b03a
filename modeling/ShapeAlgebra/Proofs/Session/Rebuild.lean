import ShapeAlgebra.Proofs.Registry.Replay
import ShapeAlgebra.Proofs.Session.Currency

/-!
# Rebuilding a session from its listing

Whatever commands a session has performed, its listing tells all that is registered: declared in a
fresh registry it yields the same listing again.  For the registered declarations are valid, as
those of a listing are, resizing keeps names and symbols, and they stand in the order of their
symbols.  The one command that could register anything else is the insertion of a single
declaration.
-/

namespace ShapeAlgebra

/-! ## Valid registries -/

namespace Registry

/-- Every registered declaration is valid. -/
def AllValid (r : Registry) : Prop := ∀ d ∈ r.table, d.decl.Valid

variable {r : Registry} {decls : List Decl}

/-- All declarations of a listing are valid, as the grammar has it. -/
lemma valid_of_readListing {spec : String} (h : readListing spec = .ok decls) :
    ∀ decl ∈ decls, decl.Valid := by
  unfold readListing at h
  split at h
  · rename_i hread
    obtain rfl := Except.ok.inj h
    exact (Decl.readAll?_eq_some_iff.1 hread).valid.2
  · cases h

namespace AllValid

/-- Registering valid declarations keeps everything valid. -/
lemma registerAll (h : r.AllValid) (hdecls : ∀ decl ∈ decls, decl.Valid) :
    (r.registerAll decls).AllValid := by
  induction decls generalizing r with
  | nil => exact h
  | cons decl decls ih =>
    refine ih (fun d hd => ?_) fun other hother => hdecls other (List.mem_cons_of_mem decl hother)
    rcases mem_of_mem_place hd with rfl | hold
    · exact hdecls decl List.mem_cons_self
    · exact h d hold

/-- Inserting valid declarations keeps everything valid, whether they are admitted or not. -/
lemma insertAll (h : r.AllValid) (spec : String) (policy : Policy)
    (hdecls : ∀ decl ∈ decls, decl.Valid) :
    (r.insertAll spec policy decls).registry.AllValid := by
  unfold Registry.insertAll
  split
  · exact h
  · exact h.registerAll hdecls

/-- Declaring keeps everything valid. -/
lemma declareWith (h : r.AllValid) (policy : Policy) (spec : String) :
    (r.declareWith policy spec).registry.AllValid := by
  unfold Registry.declareWith
  split
  · rename_i hread
    exact h.insertAll spec policy (valid_of_readListing hread)
  · exact h

/-- A resized declaration keeps its name and symbol, and its size is that of a listing. -/
lemma resizings (h : r.AllValid) {spec : String} (hdecls : r.resizings spec = .ok decls) :
    ∀ decl ∈ decls, decl.Valid := by
  obtain ⟨updates, hread, hmap⟩ := bind_eq_ok_iff.1 hdecls
  intro decl hdecl
  obtain ⟨update, hupdate, hresize⟩ := exists_of_mem_right (mapM_eq_ok_iff.1 hmap) hdecl
  obtain ⟨d, hresolve, heq⟩ := bind_eq_ok_iff.1 hresize
  obtain rfl := Except.ok.inj heq
  unfold resolve at hresolve
  split at hresolve
  · rename_i hfind
    obtain rfl := Except.ok.inj hresolve
    have hd := h _ (List.mem_of_find?_eq_some hfind)
    exact ⟨hd.name, hd.symbol, (valid_of_readListing hread update hupdate).size⟩
  · cases hresolve

/-- A change of sizes keeps everything valid: names stay, and the new sizes have been read. -/
lemma updateSizes (h : r.AllValid) (spec : String) : (r.updateSizes spec).registry.AllValid := by
  unfold Registry.updateSizes
  split
  · rename_i hdecls
    exact h.registerAll (h.resizings hdecls)
  · exact h

end AllValid

end Registry

/-! ## Sessions -/

namespace Session

variable {s : Session}

/-- Commands that register valid declarations only: an inserted declaration is not looked at. -/
def Command.Valid : Command → Prop
  | .insert _ decl => decl.Valid
  | _ => True

/-- A command keeps everything valid. -/
lemma Command.Valid.apply {c : Command} (hc : c.Valid) {r : Registry} (h : r.AllValid) :
    (c.apply r).registry.AllValid := by
  cases c with
  | declare spec => exact h.declareWith r.policy spec
  | declareWith policy spec => exact h.declareWith policy spec
  | declareOne spec =>
    change (r.declareOne spec).registry.AllValid
    rw [Registry.registry_declareOne]
    exact h.declareWith r.policy spec
  | insert policy decl =>
    refine h.insertAll decl.text policy fun d hd => ?_
    rw [List.mem_singleton.1 hd]
    exact hc
  | lookup spec => exact h
  | get symbol => exact h
  | updateSizes spec => exact h.updateSizes spec

/-- Commands, one after the other, keep everything valid. -/
lemma allValid_performAll {cs : List Command} (hcs : ∀ c ∈ cs, c.Valid)
    (h : s.registry.AllValid) : (s.performAll cs).registry.AllValid := by
  induction cs generalizing s with
  | nil => exact h
  | cons c cs ih =>
    refine ih (fun c' hc' => hcs c' (List.mem_cons_of_mem c hc')) ?_
    exact (hcs c List.mem_cons_self).apply h

/-- A session that starts out with an empty registry can be rebuilt from its listing, unless nothing
is registered: declared in a fresh strict registry the listing is accepted, with the declarations
that were registered, and the fresh registry has the same listing. -/
theorem performAll_rebuilds (policy : Policy) (cs : List Command) (hcs : ∀ c ∈ cs, c.Valid)
    (hne : (performAll { registry := { policy := policy } } cs).registry.snapshot ≠ []) :
    let listed := (performAll { registry := { policy := policy } } cs).registry.snapshot
    let update := Registry.declare { policy := .strict } (" ".intercalate (listed.map Decl.text))
    (∃ dims, update.result = .ok dims ∧ dims.map Dim.decl = listed) ∧
      update.registry.snapshot = listed := by
  intro listed update
  have hvalid : ∀ decl ∈ listed, decl.Valid := by
    intro decl hdecl
    obtain ⟨d, hd, rfl⟩ := List.mem_map.1 hdecl
    exact allValid_performAll hcs (fun _ h => absurd h List.not_mem_nil) d hd
  have hascending : (listed.map Decl.symbol).Pairwise (· < ·) := by
    have hsymbols := (remembers_performAll policy cs).records.ascending
    rwa [← Registry.map_symbol_snapshot] at hsymbols
  obtain ⟨hresult, hsnapshot⟩ := Registry.declare_intercalate hne hvalid hascending
  exact ⟨⟨_, hresult, Registry.map_decl_stampedAll _ _⟩, hsnapshot⟩

/-- Two symbols are declared, one of them twice, a listing of two is refused for not being single
but registered, and a size is changed. -/
theorem performAll_rebuilds_resized :
    let cs : List Command := [.declare "SeqLength(t):7 Batch(b)", .declare "b:3",
      .declareWith .relaxed "N(b):5", .declareOne "x:2 y", .updateSizes "t:9 y:1"]
    let listed := (performAll {} cs).registry.snapshot
    let update := Registry.declare { policy := .strict } (" ".intercalate (listed.map Decl.text))
    (∀ c ∈ cs, c.Valid) ∧ listed.map Decl.text = ["N(b):5", "SeqLength(t):9", "x(x):2", "y(y):1"] ∧
      update.registry.snapshot = listed := by
  intro cs listed update
  have hcs : ∀ c ∈ cs, c.Valid := by
    simp [cs, Command.Valid]
  exact ⟨hcs, rfl, (performAll_rebuilds .strict cs hcs (by decide)).2⟩

end Session

end ShapeAlgebra
