import ShapeAlgebra.Proofs.Outcome
import ShapeAlgebra.Proofs.Registry.History
import ShapeAlgebra.Session

/-!
# The currency of handles

A session hands out dimensions, and later commands may replace in the registry what was handed out.
Every command registers some declarations, possibly none, and hands out what it has registered or
what it has found.  So along a session the registry records its history, and everything handed out
is in it.  From this the currency of handles can be read: a handle is current when it is the last
registration of its symbol, and one that is not current never becomes so again.
-/

namespace ShapeAlgebra

/-! ## Updates -/

namespace Registry

variable {r : Registry}

/-- The dimensions that an update hands out: none if it is refused. -/
def Update.dims (u : Update (List Dim)) : List Dim :=
  match u.result with
  | .ok dims => dims
  | .error _ => []

/-- An update that registers declarations, possibly none, and hands out the dimensions that they
yield. -/
def Registers (r : Registry) (u : Update (List Dim)) : Prop :=
  ∃ decls, u.registry = r.registerAll decls ∧ u.dims = r.stampedAll decls

/-- A refusal registers nothing. -/
lemma registers_refused (e : ShapeError) : r.Registers (r.refused e) := ⟨[], rfl, rfl⟩

/-- Inserting registers what it is given, or nothing. -/
lemma registers_insertAll (spec : String) (policy : Policy) (decls : List Decl) :
    r.Registers (r.insertAll spec policy decls) := by
  unfold insertAll
  split
  · exact registers_refused _
  · exact ⟨decls, rfl, rfl⟩

/-- Declaring registers what is read from the listing, or nothing. -/
lemma registers_declareWith (policy : Policy) (spec : String) :
    r.Registers (r.declareWith policy spec) := by
  unfold declareWith
  split
  · exact registers_insertAll spec policy _
  · exact registers_refused _

/-- A change of sizes registers the resized dimensions, or nothing. -/
lemma registers_updateSizes (spec : String) : r.Registers (r.updateSizes spec) := by
  unfold updateSizes
  split
  · exact ⟨_, rfl, rfl⟩
  · exact registers_refused _

/-- A single declaration is registered as any other, even if it is then refused for not being
single. -/
lemma registry_declareOne (spec : String) :
    (r.declareOne spec).registry = (r.declare spec).registry := by
  simp only [declareOne]
  split <;> rfl

/-- A single declaration hands out nothing that the declaration of a listing would not. -/
lemma mem_dims_of_declareOne {spec : String} {d : Dim} (h : d ∈ (r.declareOne spec).dims) :
    d ∈ (r.declare spec).dims := by
  simp only [declareOne] at h
  split at h
  · rename_i hresult
    unfold Update.dims at h ⊢
    rw [hresult]
    exact h
  · cases h
  · cases h

/-- What is looked up has been found. -/
lemma find?_of_mem_lookup {spec : String} {dims : List Dim} (h : r.lookup spec = .ok dims)
    {d : Dim} (hd : d ∈ dims) : ∃ symbol, r.find? symbol = some d := by
  obtain ⟨word, _, hresolve⟩ := exists_of_mem_right (mapM_eq_ok_iff.1 h) hd
  unfold resolve at hresolve
  split at hresolve
  · rename_i hfind
    exact ⟨_, by rw [hfind, Except.ok.inj hresolve]⟩
  · cases hresolve

end Registry

namespace Session

variable {s : Session} {history : List Dim}

/-! ## Commands -/

/-- The dimensions that a command registers, in order.  The declaration of a single dimension counts
its declarations only when they are registered. -/
def Command.registered (r : Registry) : Command → List Dim
  | .declare spec | .declareOne spec => (r.declare spec).dims
  | .declareWith policy spec => (r.declareWith policy spec).dims
  | .insert policy decl => (r.insert policy decl).dims
  | .updateSizes spec => (r.updateSizes spec).dims
  | .lookup _ | .get _ => []

/-- A command turns the registry into the one with its registrations. -/
lemma Command.registry_apply (r : Registry) (c : Command) :
    ∃ decls, (c.apply r).registry = r.registerAll decls ∧
      c.registered r = r.stampedAll decls := by
  cases c with
  | declare spec => exact r.registers_declareWith r.policy spec
  | declareWith policy spec => exact r.registers_declareWith policy spec
  | declareOne spec =>
    obtain ⟨decls, hregistry, hdims⟩ := r.registers_declareWith r.policy spec
    exact ⟨decls, (Registry.registry_declareOne spec).trans hregistry, hdims⟩
  | insert policy decl => exact r.registers_insertAll decl.text policy [decl]
  | lookup spec => exact ⟨[], rfl, rfl⟩
  | get symbol => exact ⟨[], rfl, rfl⟩
  | updateSizes spec => exact r.registers_updateSizes spec

/-- A command hands out what it has registered, or what a symbol stands for. -/
lemma Command.mem_dims_apply (r : Registry) (c : Command) {d : Dim} (hd : d ∈ (c.apply r).dims) :
    d ∈ c.registered r ∨ ∃ symbol, r.find? symbol = some d := by
  cases c with
  | declare spec => exact .inl hd
  | declareWith policy spec => exact .inl hd
  | declareOne spec => exact .inl (Registry.mem_dims_of_declareOne hd)
  | insert policy decl => exact .inl hd
  | lookup spec =>
    right
    change d ∈ (match r.lookup spec with | .ok dims => dims | .error _ => []) at hd
    split at hd
    · rename_i hlookup
      exact Registry.find?_of_mem_lookup hlookup hd
    · cases hd
  | get symbol => exact .inr ⟨symbol, Option.mem_toList.1 hd⟩
  | updateSizes spec => exact .inl hd

/-- The registry of a session changes as the command says. -/
lemma registry_perform (c : Command) :
    (s.perform c).2.registry = (c.apply s.registry).registry := rfl

/-- What a command hands out is added to the handles. -/
lemma handles_perform (c : Command) :
    (s.perform c).2.handles = s.handles ++ (c.apply s.registry).dims := rfl

/-! ## Runs of commands -/

/-- The session after commands. -/
def performAll (s : Session) : List Command → Session
  | [] => s
  | c :: cs => (s.perform c).2.performAll cs

/-- The dimensions that commands register, in order. -/
def registered (s : Session) : List Command → List Dim
  | [] => []
  | c :: cs => c.registered s.registry ++ (s.perform c).2.registered cs

/-- The registry records a history, and everything handed out is in it. -/
structure Remembers (s : Session) (history : List Dim) : Prop where
  records : s.registry.Records history
  handles_subset : s.handles ⊆ history

/-- A command adds its registrations to the history. -/
lemma Remembers.perform (h : s.Remembers history) (c : Command) :
    (s.perform c).2.Remembers (history ++ c.registered s.registry) := by
  obtain ⟨decls, hregistry, hregistered⟩ := c.registry_apply s.registry
  constructor
  · rw [registry_perform, hregistry, hregistered]
    exact h.records.registerAll decls
  · intro d hd
    rw [handles_perform] at hd
    rcases List.mem_append.1 hd with hold | hnew
    · exact List.mem_append_left _ (h.handles_subset hold)
    · -- a command hands out what it registers, or what was found in the table
      rcases c.mem_dims_apply s.registry hnew with hregister | ⟨symbol, hfind⟩
      · exact List.mem_append_right history hregister
      · exact List.mem_append_left _ (h.records.mem_of_find? hfind).1

/-- Commands add their registrations to the history. -/
theorem Remembers.performAll (h : s.Remembers history) (cs : List Command) :
    (s.performAll cs).Remembers (history ++ s.registered cs) := by
  induction cs generalizing s history with
  | nil =>
    change s.Remembers (history ++ [])
    rw [List.append_nil]
    exact h
  | cons c cs ih =>
    change ((s.perform c).2.performAll cs).Remembers
      (history ++ (c.registered s.registry ++ (s.perform c).2.registered cs))
    rw [← List.append_assoc]
    exact ih (h.perform c)

/-- Behind an empty registry the history is what the commands have registered. -/
lemma remembers_performAll (policy : Policy) (cs : List Command) :
    let start : Session := { registry := { policy := policy } }
    (start.performAll cs).Remembers (start.registered cs) := by
  intro start
  have hstart : start.Remembers [] := ⟨.empty policy, List.Subset.refl []⟩
  exact hstart.performAll cs

/-- What was handed out stays as it is, and in its place. -/
lemma handles_prefix_performAll (s : Session) (cs : List Command) :
    s.handles <+: (s.performAll cs).handles := by
  induction cs generalizing s with
  | nil => exact List.prefix_refl s.handles
  | cons c cs ih =>
    have hfirst : s.handles <+: (s.perform c).2.handles := by
      rw [handles_perform]
      exact List.prefix_append _ _
    exact hfirst.trans (ih (s.perform c).2)

/-! ## Currency -/

/-- There is a last registration of the symbol of a handle, and the handle is current if it is the
same instance. -/
lemma Remembers.isCurrent_iff (h : s.Remembers history) {d : Dim} (hd : d ∈ s.handles) :
    ∃ last, Registry.latest? history d.symbol = some last ∧
      (s.registry.isCurrent d = true ↔ last.sameInstance d = true) := by
  obtain ⟨last, hlast⟩ := Registry.exists_latest?_of_mem (h.handles_subset hd)
  exact ⟨last, hlast, h.records.isCurrent_iff hlast⟩

/-- A handle that is not current does not become so. -/
lemma Remembers.isCurrent_performAll (h : s.Remembers history) {d : Dim} (hd : d ∈ s.handles)
    (hstale : s.registry.isCurrent d = false) (more : List Command) :
    (s.performAll more).registry.isCurrent d = false := by
  rw [← Bool.not_eq_true] at hstale ⊢
  intro hcurrent
  have hlater := (h.performAll more).records
  exact hstale (h.records.isCurrent_of_later hlater (h.handles_subset hd) hcurrent)

/-- Whatever is handed out or registered later is equal to a handle if it is the same instance. -/
lemma Remembers.eq_of_sameInstance (h : s.Remembers history) {d d' : Dim} (hd : d ∈ s.handles)
    {more : List Command}
    (hd' : d' ∈ (s.performAll more).handles ∨ d' ∈ (s.performAll more).registry.table)
    (hsame : d'.sameInstance d = true) : d' = d := by
  have hmore := h.performAll more
  have hmem : d' ∈ history ++ s.registered more := by
    rcases hd' with hhandle | htable
    · exact hmore.handles_subset hhandle
    · exact (hmore.records.mem_of_find? (hmore.records.find?_of_mem_table htable)).1
  have hmem' : d ∈ history ++ s.registered more := List.mem_append_left _ (h.handles_subset hd)
  exact hmore.records.eq_of_sameInstance hmem hmem' hsame

/-- Along a session that starts out with an empty registry the symbols are ascending, and a symbol
stands for what is in the table under it.  The handles of a symbol that are current are those that
are the same instance as the last registration of it.  Whatever commands follow, a handle that is
not current does not become so, and every handle stays as it is; whatever is the same instance is
equal to it. -/
theorem performAll_keeps_currency (policy : Policy) (cs : List Command) :
    let start : Session := { registry := { policy := policy } }
    let s := start.performAll cs
    s.registry.symbols.Pairwise (· < ·) ∧
      (∀ symbol d, s.registry.find? symbol = some d ↔ d ∈ s.registry.table ∧ d.symbol = symbol) ∧
      (∀ d ∈ s.handles, ∃ last, Registry.latest? (start.registered cs) d.symbol = some last ∧
        (s.registry.isCurrent d = true ↔ last.sameInstance d = true)) ∧
      ∀ more,
        (∀ d ∈ s.handles, s.registry.isCurrent d = false →
          (s.performAll more).registry.isCurrent d = false) ∧
        s.handles <+: (s.performAll more).handles ∧
        ∀ d ∈ s.handles, ∀ d',
          d' ∈ (s.performAll more).handles ∨ d' ∈ (s.performAll more).registry.table →
            d'.sameInstance d = true → d' = d := by
  intro start s
  have hs : s.Remembers (start.registered cs) := remembers_performAll policy cs
  refine ⟨hs.records.ascending, fun symbol d => hs.records.find?_eq_some_iff,
    fun d hd => hs.isCurrent_iff hd, fun more => ⟨?_, handles_prefix_performAll s more, ?_⟩⟩
  · intro d hd hstale
    exact hs.isCurrent_performAll hd hstale more
  · intro d hd d' hd' hsame
    exact hs.eq_of_sameInstance hd hd' hsame

/-- A dimension that is declared, resized and then looked up: what is looked up is the new handle,
which is the last registration, and the old one stays stale whatever follows, even if the dimension
is declared again as it was. -/
theorem performAll_keeps_currency_resized :
    let start : Session := { registry := { policy := .relaxed } }
    let cs : List Command := [.declare "Batch(b):20", .updateSizes "b:32", .lookup "b"]
    let s := start.performAll cs
    let old : Dim := ⟨⟨"Batch", "b", some 20⟩, 0⟩
    let new : Dim := ⟨⟨"Batch", "b", some 32⟩, 1⟩
    s.handles = [old, new, new] ∧ s.registry.find? "b" = some new ∧
      (Registry.latest? (start.registered cs) "b" = some new ∧ s.registry.isCurrent new = true) ∧
      (∀ more, (s.performAll more).registry.isCurrent old = false ∧
        [old, new, new] <+: (s.performAll more).handles) ∧
      (s.performAll [.declare "Batch(b):20"]).handles = [old, new, new, ⟨old.decl, 2⟩] := by
  intro start cs s old new
  obtain ⟨-, hfind, hlast, hmore⟩ := performAll_keeps_currency .relaxed cs
  have hhandles : s.handles = [old, new, new] := by decide +kernel
  have hold : old ∈ s.handles := by
    rw [hhandles]
    exact List.mem_cons_self
  have hnew : new ∈ s.handles := by
    rw [hhandles]
    exact List.mem_cons_of_mem old List.mem_cons_self
  have hlatest : Registry.latest? (start.registered cs) "b" = some new := by decide +kernel
  obtain ⟨last, hlatest', hcurrent⟩ := hlast new hnew
  obtain rfl := Option.some.inj (hlatest.symm.trans hlatest')
  refine ⟨hhandles, (hfind "b" new).2 ⟨by decide +kernel, rfl⟩, ⟨hlatest, hcurrent.2 rfl⟩,
    fun more => ?_, by decide +kernel⟩
  obtain ⟨hstale, hprefix, -⟩ := hmore more
  rw [hhandles] at hprefix
  exact ⟨hstale old hold (by decide +kernel), hprefix⟩

end Session

end ShapeAlgebra
