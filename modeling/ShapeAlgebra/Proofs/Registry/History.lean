import Mathlib.Data.List.Nodup
import Mathlib.Tactic.Lemma
import ShapeAlgebra.Registry.Basic

/-!
# The history of a registry

The history of a registry lists the dimensions in the order in which they were registered, those
included that have been replaced since.  A registry records a history when the stamps count the
registrations, the table is ascending, and every symbol stands for the dimension that was registered
last under it.  The empty registry records the empty history, and every registration carries this
on.  Since no stamp is given twice, a dimension that has been replaced stays replaced.
-/

namespace ShapeAlgebra.Registry

variable {r r' : Registry} {history : List Dim}

/-- The dimension that was registered last under `symbol`. -/
def latest? (history : List Dim) (symbol : String) : Option Dim :=
  (history.filter (·.symbol == symbol)).getLast?

/-- The registry after the registrations `history`, if it started out empty. -/
structure Records (r : Registry) (history : List Dim) : Prop where
  /-- The stamps count the registrations. -/
  stamps : history.map Dim.stamp = List.range r.nextStamp
  ascending : r.symbols.Pairwise (· < ·)
  /-- A symbol stands for the last dimension that was registered under it. -/
  find?_eq : ∀ symbol, r.find? symbol = latest? history symbol

/-! ## The last registration -/

/-- The last registration is the latest one of its symbol. -/
lemma latest?_append_singleton (d : Dim) (symbol : String) :
    latest? (history ++ [d]) symbol =
      if d.symbol = symbol then some d else latest? history symbol := by
  unfold latest?
  rw [List.filter_append]
  by_cases h : d.symbol = symbol
  · have hone : [d].filter (·.symbol == symbol) = [d] := by simp [h]
    rw [hone, List.getLast?_concat, if_pos h]
  · have hnone : [d].filter (·.symbol == symbol) = [] := by simp [h]
    rw [hnone, List.append_nil, if_neg h]

/-- The latest registration of a symbol is in the history, and has the symbol. -/
lemma mem_of_latest? {symbol : String} {d : Dim} (h : latest? history symbol = some d) :
    d ∈ history ∧ d.symbol = symbol := by
  have hmem := List.mem_filter.1 (List.mem_of_getLast? h)
  exact ⟨hmem.1, eq_of_beq hmem.2⟩

/-- There is a last registration of every symbol that was registered at all. -/
lemma exists_latest?_of_mem {d : Dim} (h : d ∈ history) :
    ∃ last, latest? history d.symbol = some last := by
  have hne : history.filter (·.symbol == d.symbol) ≠ [] :=
    List.ne_nil_of_mem (List.mem_filter.2 ⟨h, beq_self_eq_true d.symbol⟩)
  exact ⟨_, List.getLast?_eq_some_getLast hne⟩

/-- The last registration is among the later ones, or there is none of its symbol among them. -/
lemma latest?_append {more : List Dim} {symbol : String} {d : Dim}
    (h : latest? (history ++ more) symbol = some d) :
    d ∈ more ∨ latest? history symbol = some d := by
  unfold latest? at h
  rw [List.filter_append, List.getLast?_append, Option.or_eq_some_iff] at h
  rcases h with hmore | ⟨_, hbefore⟩
  · exact .inl (mem_of_latest? hmore).1
  · exact .inr hbefore

/-! ## The table -/

/-- Placing a dimension in a table brings in no other one. -/
lemma mem_of_mem_place {d x : Dim} {table : List Dim} (h : x ∈ place d table) :
    x = d ∨ x ∈ table := by
  induction table with
  | nil => exact .inl (List.mem_singleton.1 h)
  | cons y ys ih =>
    unfold place at h
    split at h
    · exact List.mem_cons.1 h
    · split at h
      · exact (List.mem_cons.1 h).imp_right (List.mem_cons_of_mem y)
      · rcases List.mem_cons.1 h with rfl | hrest
        · exact .inr List.mem_cons_self
        · exact (ih hrest).imp_right (List.mem_cons_of_mem y)

/-- A dimension is placed between the smaller symbols and the greater ones. -/
lemma pairwise_place (d : Dim) {table : List Dim}
    (h : table.Pairwise fun a b => a.symbol < b.symbol) :
    (place d table).Pairwise fun a b => a.symbol < b.symbol := by
  induction table with
  | nil => exact List.pairwise_singleton _ d
  | cons y ys ih =>
    obtain ⟨hy, hys⟩ := List.pairwise_cons.1 h
    unfold place
    split
    · rename_i hlt
      refine List.pairwise_cons.2 ⟨fun x hx => ?_, h⟩
      rcases List.mem_cons.1 hx with rfl | hx
      · exact hlt
      · exact String.lt_trans hlt (hy x hx)
    · split
      · rename_i hsame
        refine List.pairwise_cons.2 ⟨fun x hx => ?_, hys⟩
        rw [hsame]
        exact hy x hx
      · -- neither smaller nor equal, so greater: `d` belongs further back
        rename_i hnlt hne
        have hgt : y.symbol < d.symbol := by
          refine String.not_le.1 fun hle => hne ?_
          exact String.le_antisymm hle (String.not_lt.1 hnlt)
        refine List.pairwise_cons.2 ⟨fun x hx => ?_, ih hys⟩
        rcases mem_of_mem_place hx with rfl | hx
        · exact hgt
        · exact hy x hx

/-! ## Registrations -/

namespace Records

/-- The empty registry records the empty history. -/
lemma empty (policy : Policy) : ({ policy := policy } : Registry).Records [] where
  stamps := rfl
  ascending := List.Pairwise.nil
  find?_eq _ := rfl

/-- One more registration is recorded. -/
lemma register (h : r.Records history) (decl : Decl) :
    (r.register decl).Records (history ++ [r.stamped decl]) where
  stamps := by
    rw [List.map_append, h.stamps]
    exact List.range_succ.symm
  ascending := by
    have htable := List.pairwise_map.1 h.ascending
    exact List.pairwise_map.2 (pairwise_place (r.stamped decl) htable)
  find?_eq symbol := by
    rw [find?_register, latest?_append_singleton, h.find?_eq]
    rfl

/-- All registrations are recorded, in their order. -/
theorem registerAll (h : r.Records history) (decls : List Decl) :
    (r.registerAll decls).Records (history ++ r.stampedAll decls) := by
  induction decls generalizing r history with
  | nil =>
    rw [stampedAll_nil, List.append_nil]
    exact h
  | cons decl decls ih =>
    rw [registerAll_cons, stampedAll_cons, List.append_cons]
    exact ih (h.register decl)

/-! ## What a registry shows of its history -/

/-- No two registrations have the same stamp. -/
lemma nodup_stamps (h : r.Records history) : (history.map Dim.stamp).Nodup := by
  rw [h.stamps]
  exact List.nodup_range

/-- Registrations that are the same instance are equal. -/
lemma eq_of_sameInstance (h : r.Records history) {d d' : Dim} (hd : d ∈ history)
    (hd' : d' ∈ history) (hsame : d.sameInstance d' = true) : d = d' :=
  List.inj_on_of_nodup_map h.nodup_stamps hd hd' (eq_of_beq hsame)

/-- What a symbol stands for has been registered under it. -/
lemma mem_of_find? (h : r.Records history) {symbol : String} {d : Dim}
    (hfind : r.find? symbol = some d) : d ∈ history ∧ d.symbol = symbol := by
  rw [h.find?_eq] at hfind
  exact mem_of_latest? hfind

/-- What stands in the table is found under its own symbol. -/
lemma find?_of_mem_table (h : r.Records history) {d : Dim} (hd : d ∈ r.table) :
    r.find? d.symbol = some d := by
  have htable := List.pairwise_map.1 h.ascending
  obtain ⟨before, after, hsplit⟩ := List.append_of_mem hd
  refine List.find?_eq_some_iff_append.2 ⟨beq_self_eq_true d.symbol, before, after, hsplit, ?_⟩
  intro x hx
  rw [hsplit, List.pairwise_append] at htable
  have hlt : x.symbol < d.symbol := htable.2.2 x hx d List.mem_cons_self
  have hne : x.symbol ≠ d.symbol := fun heq => String.lt_irrefl d.symbol (heq ▸ hlt)
  simp [hne]

/-- A symbol stands for what is in the table under it.  That what is found has the symbol is so by
construction; that everything in the table is found rests on no symbol being there twice. -/
lemma find?_eq_some_iff (h : r.Records history) {symbol : String} {d : Dim} :
    r.find? symbol = some d ↔ d ∈ r.table ∧ d.symbol = symbol := by
  constructor
  · intro hfind
    exact ⟨List.mem_of_find?_eq_some hfind, (h.mem_of_find? hfind).2⟩
  · rintro ⟨hd, rfl⟩
    exact h.find?_of_mem_table hd

/-- A registration is current when it is the last one of its symbol. -/
lemma isCurrent_iff (h : r.Records history) {d last : Dim}
    (hlast : latest? history d.symbol = some last) :
    r.isCurrent d = true ↔ last.sameInstance d = true := by
  unfold isCurrent
  rw [h.find?_eq, hlast]

/-- What has been replaced stays replaced. -/
lemma isCurrent_of_later {more : List Dim} (h : r.Records history)
    (h' : r'.Records (history ++ more)) {d : Dim} (hd : d ∈ history)
    (hcurrent : r'.isCurrent d = true) : r.isCurrent d = true := by
  obtain ⟨last, hlast⟩ := exists_latest?_of_mem (List.mem_append_left more hd)
  have hsame := (h'.isCurrent_iff hlast).1 hcurrent
  have heq : last = d :=
    h'.eq_of_sameInstance (mem_of_latest? hlast).1 (List.mem_append_left more hd) hsame
  rcases latest?_append hlast with hmore | hbefore
  · -- the stamps of later registrations are not those of earlier ones
    have hnodup := h'.nodup_stamps
    rw [List.map_append, List.nodup_append] at hnodup
    rw [heq] at hmore
    exact absurd rfl (hnodup.2.2 _ (List.mem_map_of_mem hd) _ (List.mem_map_of_mem hmore))
  · exact (h.isCurrent_iff hbefore).2 hsame

end Records

end ShapeAlgebra.Registry
