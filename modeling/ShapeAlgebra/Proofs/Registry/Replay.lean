import ShapeAlgebra.Proofs.Dim.Reading
import ShapeAlgebra.Proofs.Registry.Update

/-!
# Replaying a listing

Valid declarations in the order of their symbols can be written down and declared again.  The
listing is read as these declarations, no symbol of it is taken, and each declaration is placed
behind all earlier ones.
-/

namespace ShapeAlgebra.Registry

variable {r : Registry} {decls : List Decl}

/-- A dimension with a symbol above all others is placed behind them. -/
lemma place_eq_append {d : Dim} {table : List Dim} (h : ∀ x ∈ table, x.symbol < d.symbol) :
    place d table = table ++ [d] := by
  induction table with
  | nil => rfl
  | cons x xs ih =>
    have hx : x.symbol < d.symbol := h x List.mem_cons_self
    have hne : d.symbol ≠ x.symbol := fun heq => String.lt_irrefl d.symbol (heq ▸ hx)
    rw [place, if_neg (String.lt_asymm hx), if_neg hne,
      ih fun y hy => h y (List.mem_cons_of_mem x hy)]
    rfl

/-- Declarations in the order of their symbols, above those that are there, are listed behind
them. -/
lemma snapshot_registerAll (hascending : (decls.map Decl.symbol).Pairwise (· < ·))
    (habove : ∀ x ∈ r.table, ∀ decl ∈ decls, x.symbol < decl.symbol) :
    (r.registerAll decls).snapshot = r.snapshot ++ decls := by
  induction decls generalizing r with
  | nil => rw [registerAll_nil, List.append_nil]
  | cons decl decls ih =>
    obtain ⟨hdecl, hdecls⟩ := List.pairwise_cons.1 hascending
    have htable : (r.register decl).table = r.table ++ [r.stamped decl] :=
      place_eq_append fun x hx => habove x hx decl List.mem_cons_self
    rw [registerAll_cons, ih hdecls]
    · rw [snapshot, htable, List.map_append, List.append_assoc]
      rfl
    · intro x hx other hother
      rw [htable] at hx
      rcases List.mem_append.1 hx with hold | hnew
      · exact habove x hold other (List.mem_cons_of_mem decl hother)
      · obtain rfl := List.mem_singleton.1 hnew
        exact hdecl other.symbol (List.mem_map_of_mem hother)

/-- The symbols of the declarations that a registry lists are its own symbols. -/
lemma map_symbol_snapshot (r : Registry) : r.snapshot.map Decl.symbol = r.symbols :=
  List.map_map

/-- What a fresh strict registry lists when it is given the listing of valid declarations in the
order of their symbols. -/
theorem declare_intercalate (hne : decls ≠ []) (hvalid : ∀ decl ∈ decls, decl.Valid)
    (hascending : (decls.map Decl.symbol).Pairwise (· < ·)) :
    let fresh : Registry := { policy := .strict }
    let update := fresh.declare (" ".intercalate (decls.map Decl.text))
    update.result = .ok (fresh.stampedAll decls) ∧ update.registry.snapshot = decls := by
  intro fresh update
  have hread : readListing (" ".intercalate (decls.map Decl.text)) = .ok decls := by
    rw [readListing, Decl.readAll?_intercalate (by decide) (by decide) hne hvalid]
  have hnodup : (decls.map Decl.symbol).Nodup := by
    refine hascending.imp fun hlt => ?_
    rintro rfl
    exact String.lt_irrefl _ hlt
  have hconflict : fresh.conflict? .strict decls = none :=
    firstTaken_eq_none_iff.2 ⟨hnodup, fun _ _ => List.not_mem_nil⟩
  have hupdate : update = ⟨.ok (fresh.stampedAll decls), fresh.registerAll decls,
      fresh.registrations decls⟩ := by
    change fresh.declareWith .strict _ = _
    rw [declareWith, hread]
    change fresh.insertAll _ .strict decls = _
    rw [insertAll, hconflict]
  rw [hupdate]
  refine ⟨rfl, ?_⟩
  exact snapshot_registerAll hascending fun x hx => absurd hx List.not_mem_nil

end ShapeAlgebra.Registry
