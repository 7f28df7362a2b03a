import ShapeAlgebra.Proofs.Outcome
import ShapeAlgebra.Proofs.Registry.History

/-!
# Updates of a registry

An update of a registry registers a whole listing or leaves the registry alone.  Which of the two
happens is decided before the first registration: a declaration under the strict policy wants every
symbol to be new, a change of sizes wants every symbol to be registered, and a declaration under the
relaxed policy wants nothing.  A refusal blames the first declaration that breaks the condition.  An
update that is performed puts the new dimensions over the old ones from left to right, so the last
one of a symbol stays, and a symbol that the listing does not mention keeps its dimension.
-/

namespace ShapeAlgebra.Registry

variable {r r' : Registry} {spec : String} {decls : List Decl} {dims : List Dim}

/-! ## What an update asks for -/

/-- The symbols of `decls` differ from each other and from those in `taken`. -/
def AllNew (taken : List String) (decls : List Decl) : Prop :=
  (decls.map Decl.symbol).Nodup ∧ ∀ decl ∈ decls, decl.symbol ∉ taken

/-- The symbols of `decls` are all among `known`. -/
def AllKnown (known : List String) (decls : List Decl) : Prop :=
  ∀ decl ∈ decls, decl.symbol ∈ known

/-- The first of `decls` whose symbol is in `taken` or is that of an earlier declaration. -/
def FirstRepeated (taken : List String) (decls : List Decl) (decl : Decl) : Prop :=
  ∃ before after, decls = before ++ decl :: after ∧ AllNew taken before ∧
    (decl.symbol ∈ taken ∨ decl.symbol ∈ before.map Decl.symbol)

/-- The first of `decls` whose symbol is not among `known`. -/
def FirstUnknown (known : List String) (decls : List Decl) (decl : Decl) : Prop :=
  ∃ before after, decls = before ++ decl :: after ∧ AllKnown known before ∧ decl.symbol ∉ known

/-- The first of new declarations is new, and takes its symbol from the rest. -/
lemma allNew_cons {taken : List String} {decl : Decl} :
    AllNew taken (decl :: decls) ↔
      decl.symbol ∉ taken ∧ AllNew (decl.symbol :: taken) decls := by
  unfold AllNew
  rw [List.map_cons, List.nodup_cons, List.forall_mem_cons]
  constructor
  · rintro ⟨⟨hdecl, hnodup⟩, hnew, hfree⟩
    refine ⟨hnew, hnodup, fun other hother hmem => ?_⟩
    rcases List.mem_cons.1 hmem with heq | htaken
    · exact hdecl (heq ▸ List.mem_map_of_mem hother)
    · exact hfree other hother htaken
  · rintro ⟨hnew, hnodup, hfree⟩
    refine ⟨⟨fun hmem => ?_, hnodup⟩, hnew, fun other hother htaken => ?_⟩
    · obtain ⟨other, hother, heq⟩ := List.mem_map.1 hmem
      exact hfree other hother (List.mem_cons.2 (.inl heq))
    · exact hfree other hother (List.mem_cons_of_mem _ htaken)

/-- No symbol is taken when all of them are new. -/
lemma firstTaken_eq_none_iff {taken : List String} :
    firstTaken taken decls = none ↔ AllNew taken decls := by
  induction decls generalizing taken with
  | nil => exact iff_of_true rfl ⟨List.nodup_nil, fun _ h => absurd h List.not_mem_nil⟩
  | cons decl decls ih =>
    rw [firstTaken, allNew_cons]
    split
    · rename_i htaken
      exact iff_of_false (Option.some_ne_none _) fun h => h.1 htaken
    · rename_i hnew
      rw [ih]
      exact (and_iff_right hnew).symm

/-- The symbol that is taken is that of the first declaration that repeats one. -/
lemma firstRepeated_of_firstTaken {taken : List String} {symbol : String}
    (h : firstTaken taken decls = some symbol) :
    ∃ decl, FirstRepeated taken decls decl ∧ decl.symbol = symbol := by
  induction decls generalizing taken with
  | nil => cases h
  | cons first decls ih =>
    rw [firstTaken] at h
    split at h
    · rename_i htaken
      obtain rfl := Option.some.inj h
      exact ⟨first, ⟨[], decls, rfl, firstTaken_eq_none_iff.1 rfl, .inl htaken⟩, rfl⟩
    · rename_i hnew
      obtain ⟨decl, ⟨before, after, hsplit, hbefore, hrepeats⟩, rfl⟩ := ih h
      refine ⟨decl, ⟨first :: before, after, ?_, allNew_cons.2 ⟨hnew, hbefore⟩, ?_⟩, rfl⟩
      · rw [hsplit, List.cons_append]
      · -- the symbol of the first declaration counts as taken for the rest
        rw [List.map_cons, List.mem_cons]
        rcases hrepeats with hmem | hmem
        · rcases List.mem_cons.1 hmem with heq | htaken
          · exact .inr (.inl heq)
          · exact .inl htaken
        · exact .inr (.inr hmem)

/-! ## What an update leaves -/

/-- The registry `r'` is `r` with `dims` put over its dimensions from left to right. -/
structure Overrides (r : Registry) (dims : List Dim) (r' : Registry) : Prop where
  /-- A symbol stands for the last of `dims` that has it, and for what it stood for before if none
  has. -/
  find?_eq : ∀ symbol, r'.find? symbol = (latest? dims symbol).or (r.find? symbol)
  /-- A symbol that none of `dims` has keeps its very instance. -/
  kept : ∀ symbol, symbol ∉ dims.map Dim.symbol → r'.find? symbol = r.find? symbol
  mem_symbols_iff : ∀ symbol,
    symbol ∈ r'.symbols ↔ symbol ∈ dims.map Dim.symbol ∨ symbol ∈ r.symbols
  /-- A table that was ascending stays so. -/
  ascending : r.symbols.Pairwise (· < ·) → r'.symbols.Pairwise (· < ·)
  /-- The stamps of `dims` are those that `r` gives next, so every one of them is new. -/
  stamps : dims.map Dim.stamp = List.range' r.nextStamp dims.length
  nextStamp_eq : r'.nextStamp = r.nextStamp + dims.length
  policy_eq : r'.policy = r.policy

/-- The first dimension is the latest one of its symbol only if none of the others has the symbol.
-/
lemma latest?_cons (d : Dim) (symbol : String) :
    latest? (d :: dims) symbol =
      (latest? dims symbol).or (if d.symbol = symbol then some d else none) := by
  unfold latest?
  rw [← List.singleton_append, List.filter_append, List.getLast?_append]
  congr 1
  by_cases h : d.symbol = symbol <;> simp [h]

/-- There is no latest dimension of a symbol that none has. -/
lemma latest?_eq_none {symbol : String} (h : symbol ∉ dims.map Dim.symbol) :
    latest? dims symbol = none := by
  refine Option.eq_none_iff_forall_ne_some.2 fun d hd => h ?_
  obtain ⟨hmem, rfl⟩ := mem_of_latest? hd
  exact List.mem_map_of_mem hmem

/-- A symbol is registered if something is found under it. -/
lemma mem_symbols_iff (symbol : String) :
    symbol ∈ r.symbols ↔ ∃ d, r.find? symbol = some d := by
  unfold symbols find?
  rw [← Option.isSome_iff_exists, List.find?_isSome, List.mem_map]
  simp

/-- Nothing is found under a symbol that is not registered, and only there. -/
lemma find?_eq_none_iff {symbol : String} : r.find? symbol = none ↔ symbol ∉ r.symbols := by
  rw [mem_symbols_iff, ← Option.isSome_iff_exists, Option.not_isSome_iff_eq_none]

/-- All registrations of a listing go over what was there before, from left to right. -/
lemma find?_registerAll (r : Registry) (decls : List Decl) (symbol : String) :
    (r.registerAll decls).find? symbol =
      (latest? (r.stampedAll decls) symbol).or (r.find? symbol) := by
  induction decls generalizing r with
  | nil => rfl
  | cons decl decls ih =>
    rw [registerAll_cons, stampedAll_cons, ih, find?_register, latest?_cons]
    by_cases h : decl.symbol = symbol
    · have hstamped : (r.stamped decl).symbol = symbol := h
      rw [if_pos h, if_pos hstamped, Option.or_assoc]
      rfl
    · have hstamped : (r.stamped decl).symbol ≠ symbol := h
      rw [if_neg h, if_neg hstamped, Option.or_none]

/-- Registering keeps a table ascending. -/
lemma ascending_registerAll (h : r.symbols.Pairwise (· < ·)) (decls : List Decl) :
    (r.registerAll decls).symbols.Pairwise (· < ·) := by
  induction decls generalizing r with
  | nil => exact h
  | cons decl decls ih =>
    have htable := List.pairwise_map.1 h
    exact ih (List.pairwise_map.2 (pairwise_place (r.stamped decl) htable))

/-- Stamping does not change what is declared. -/
lemma map_decl_stampedAll (r : Registry) (decls : List Decl) :
    (r.stampedAll decls).map Dim.decl = decls := by
  induction decls generalizing r with
  | nil => rfl
  | cons decl decls ih => rw [stampedAll_cons, List.map_cons, ih, stamped]

/-- Stamps are given out in order, from the next one on. -/
lemma map_stamp_stampedAll (r : Registry) (decls : List Decl) :
    (r.stampedAll decls).map Dim.stamp = List.range' r.nextStamp decls.length := by
  induction decls generalizing r with
  | nil => rfl
  | cons decl decls ih =>
    rw [stampedAll_cons, List.map_cons, ih, List.length_cons, List.range'_succ]
    rfl

/-- Registering does not change the policy. -/
lemma policy_registerAll (r : Registry) (decls : List Decl) :
    (r.registerAll decls).policy = r.policy := by
  induction decls generalizing r with
  | nil => rfl
  | cons decl decls ih => exact ih (r.register decl)

/-- The registration of a listing overrides the registry with the dimensions it yields. -/
lemma overrides_registerAll (r : Registry) (decls : List Decl) :
    r.Overrides (r.stampedAll decls) (r.registerAll decls) where
  find?_eq := find?_registerAll r decls
  kept symbol hnot := by rw [find?_registerAll, latest?_eq_none hnot, Option.none_or]
  mem_symbols_iff symbol := by
    rw [mem_symbols_iff, mem_symbols_iff, find?_registerAll]
    constructor
    · rintro ⟨d, hd⟩
      rcases Option.or_eq_some_iff.1 hd with hlast | ⟨_, hold⟩
      · obtain ⟨hmem, rfl⟩ := mem_of_latest? hlast
        exact .inl (List.mem_map_of_mem hmem)
      · exact .inr ⟨d, hold⟩
    · rintro (hmem | ⟨d, hd⟩)
      · obtain ⟨d, hd, rfl⟩ := List.mem_map.1 hmem
        obtain ⟨last, hlast⟩ := exists_latest?_of_mem hd
        exact ⟨last, by rw [hlast, Option.some_or]⟩
      · rw [hd, ← Option.isSome_iff_exists, Option.isSome_or]
        simp
  ascending h := ascending_registerAll h decls
  stamps := by rw [length_stampedAll, map_stamp_stampedAll]
  nextStamp_eq := by rw [length_stampedAll, nextStamp_registerAll]
  policy_eq := policy_registerAll r decls

/-! ## All or nothing -/

/-- The `update` of `r` for `spec` is exact: it is performed if `admitted` holds, and hands out
dimensions that satisfy `handed` and go over those of `r`; otherwise it is refused with a cause that
satisfies `blamed`.  A refusal changes nothing. -/
structure Exact (r : Registry) (spec : String) (update : Update (List Dim)) (admitted : Prop)
    (blamed : ShapeError.Cause → Prop) (handed : List Dim → Prop) : Prop where
  succeeds_iff : (∃ dims, update.result = .ok dims) ↔ admitted
  refused : ¬admitted → ∃ cause, update.result = .error ⟨spec, cause⟩ ∧ blamed cause
  unchanged : ∀ e, update.result = .error e → update.registry = r
  performed : ∀ dims, update.result = .ok dims → handed dims ∧ r.Overrides dims update.registry

/-- A refusal is exact if nothing was to be admitted and its cause is to be blamed. -/
lemma exact_refused {admitted : Prop} {blamed : ShapeError.Cause → Prop}
    {handed : List Dim → Prop} {cause : ShapeError.Cause} (hnot : ¬admitted)
    (hblamed : blamed cause) :
    r.Exact spec (r.refused ⟨spec, cause⟩) admitted blamed handed where
  succeeds_iff := iff_of_false (by rintro ⟨_, ⟨⟩⟩) hnot
  refused _ := ⟨cause, rfl, hblamed⟩
  unchanged _ _ := rfl
  performed _ h := by cases h

/-- Registering all declarations is exact if they are to be admitted. -/
lemma exact_registerAll {admitted : Prop} {blamed : ShapeError.Cause → Prop}
    {handed : List Dim → Prop} (events : List Event) (hadmitted : admitted)
    (hhanded : handed (r.stampedAll decls)) :
    r.Exact spec ⟨.ok (r.stampedAll decls), r.registerAll decls, events⟩ admitted blamed
      handed where
  succeeds_iff := iff_of_true ⟨_, rfl⟩ hadmitted
  refused hnot := absurd hadmitted hnot
  unchanged _ h := by cases h
  performed _ h := by
    obtain rfl := Except.ok.inj h
    exact ⟨hhanded, overrides_registerAll r decls⟩

/-- The dimension that a change of sizes makes of what is registered under the symbol of
`update`. -/
def Resizes (r : Registry) (update : Decl) (d : Dim) : Prop :=
  ∃ old, r.find? update.symbol = some old ∧ d.name = old.name ∧ d.symbol = update.symbol ∧
    d.size = update.size

/-- What is found under a symbol has the symbol. -/
lemma symbol_of_find? {symbol : String} {d : Dim} (h : r.find? symbol = some d) :
    d.symbol = symbol := by
  have hbeq := List.find?_some h
  exact eq_of_beq hbeq

/-- A symbol is resolved to what is found under it. -/
lemma resolve_eq_ok_iff {symbol : String} {d : Dim} :
    r.resolve spec symbol = .ok d ↔ r.find? symbol = some d := by
  unfold resolve
  cases r.find? symbol <;> simp

/-- A symbol is refused if it is not registered, and named in the error. -/
lemma resolve_eq_error_iff {symbol : String} {e : ShapeError} :
    r.resolve spec symbol = .error e ↔
      symbol ∉ r.symbols ∧ e = ⟨spec, .notDeclared symbol⟩ := by
  rw [← find?_eq_none_iff]
  unfold resolve
  cases r.find? symbol <;> simp [eq_comm]

/-- The strict policy admits declarations of new symbols only, and blames the first that is
repeated. -/
lemma exact_declareWith_strict (h : readListing spec = .ok decls) :
    r.Exact spec (r.declareWith .strict spec) (AllNew r.symbols decls)
      (fun cause => ∃ decl, FirstRepeated r.symbols decls decl ∧
        cause = .alreadyDeclared decl.symbol)
      (fun dims => dims.map Dim.decl = decls) := by
  rw [declareWith, h]
  change r.Exact spec (r.insertAll spec .strict decls) _ _ _
  rw [insertAll, conflict?]
  cases htaken : firstTaken r.symbols decls with
  | none =>
    exact exact_registerAll _ (firstTaken_eq_none_iff.1 htaken) (map_decl_stampedAll r decls)
  | some symbol =>
    obtain ⟨decl, hfirst, rfl⟩ := firstRepeated_of_firstTaken htaken
    refine exact_refused (fun hnew => ?_) ⟨decl, hfirst, rfl⟩
    rw [firstTaken_eq_none_iff.2 hnew] at htaken
    cases htaken

/-- The relaxed policy admits all declarations. -/
lemma exact_declareWith_relaxed (h : readListing spec = .ok decls) :
    r.Exact spec (r.declareWith .relaxed spec) True (fun _ => False)
      (fun dims => dims.map Dim.decl = decls) := by
  rw [declareWith, h]
  exact exact_registerAll _ trivial (map_decl_stampedAll r decls)

/-- A change of sizes that goes through knows every symbol, and resizes what is registered. -/
lemma resizes_of_resizings {resized : List Decl} (h : readListing spec = .ok decls)
    (hresized : r.resizings spec = .ok resized) :
    AllKnown r.symbols decls ∧ List.Forall₂ r.Resizes decls (r.stampedAll resized) := by
  rw [resizings, h] at hresized
  have hdecls := mapM_eq_ok_iff.1 hresized
  have hdims : List.Forall₂ r.Resizes decls (r.stampedAll resized) := by
    rw [← map_decl_stampedAll r resized, List.forall₂_map_right_iff] at hdecls
    refine hdecls.imp fun update d hd => ?_
    obtain ⟨old, hold, hresize⟩ := bind_eq_ok_iff.1 hd
    rw [resolve_eq_ok_iff] at hold
    have hdecl : resize old update.size = d.decl := Except.ok.inj hresize
    refine ⟨old, hold, ?_, ?_, ?_⟩
    · rw [Dim.name, ← hdecl]
      rfl
    · rw [Dim.symbol, ← hdecl]
      exact symbol_of_find? hold
    · rw [Dim.size, ← hdecl]
      rfl
  refine ⟨fun decl hdecl => ?_, hdims⟩
  obtain ⟨d, _, old, hold, _⟩ := exists_of_mem_right hdims.flip hdecl
  exact (mem_symbols_iff decl.symbol).2 ⟨old, hold⟩

/-- A change of sizes that is refused blames the first symbol that is not registered. -/
lemma firstUnknown_of_resizings {e : ShapeError} (h : readListing spec = .ok decls)
    (hrefused : r.resizings spec = .error e) :
    ∃ decl, FirstUnknown r.symbols decls decl ∧ e = ⟨spec, .notDeclared decl.symbol⟩ := by
  rw [resizings, h] at hrefused
  obtain ⟨before, decl, after, hsplit, hbefore, hfails⟩ := mapM_eq_error hrefused
  rcases bind_eq_error_iff.1 hfails with hresolve | ⟨_, _, hresize⟩
  · obtain ⟨hunknown, rfl⟩ := resolve_eq_error_iff.1 hresolve
    refine ⟨decl, ⟨before, after, hsplit, fun earlier hmem => ?_, hunknown⟩, rfl⟩
    obtain ⟨resized, hresized⟩ := hbefore earlier hmem
    obtain ⟨old, hold, _⟩ := bind_eq_ok_iff.1 hresized
    exact (mem_symbols_iff earlier.symbol).2 ⟨old, resolve_eq_ok_iff.1 hold⟩
  · cases hresize

/-- Where there is a first unknown symbol not all of them are known. -/
lemma not_allKnown_of_firstUnknown {known : List String} {decl : Decl}
    (h : FirstUnknown known decls decl) : ¬AllKnown known decls := by
  obtain ⟨before, after, rfl, _, hunknown⟩ := h
  exact fun hall => hunknown (hall decl (List.mem_append_right before List.mem_cons_self))

/-- Sizes are changed for symbols that are known, and the first that is not is blamed. -/
lemma exact_updateSizes (h : readListing spec = .ok decls) :
    r.Exact spec (r.updateSizes spec) (AllKnown r.symbols decls)
      (fun cause => ∃ decl, FirstUnknown r.symbols decls decl ∧
        cause = .notDeclared decl.symbol)
      (List.Forall₂ r.Resizes decls) := by
  rw [updateSizes]
  cases hresizings : r.resizings spec with
  | ok resized =>
    obtain ⟨hknown, hresizes⟩ := resizes_of_resizings h hresizings
    exact exact_registerAll _ hknown hresizes
  | error e =>
    obtain ⟨decl, hfirst, rfl⟩ := firstUnknown_of_resizings h hresizings
    exact exact_refused (not_allKnown_of_firstUnknown hfirst) ⟨decl, hfirst, rfl⟩

/-- The updates of a registry with a listing that can be read are exact.  A strict declaration is
performed when the symbols are new and differ from each other, a relaxed one always, and a change
of sizes when the symbols are registered. -/
theorem updates_exact (h : readListing spec = .ok decls) :
    r.Exact spec (r.declareWith .strict spec) (AllNew r.symbols decls)
        (fun cause => ∃ decl, FirstRepeated r.symbols decls decl ∧
          cause = .alreadyDeclared decl.symbol)
        (fun dims => dims.map Dim.decl = decls) ∧
      r.Exact spec (r.declareWith .relaxed spec) True (fun _ => False)
        (fun dims => dims.map Dim.decl = decls) ∧
      r.Exact spec (r.updateSizes spec) (AllKnown r.symbols decls)
        (fun cause => ∃ decl, FirstUnknown r.symbols decls decl ∧
          cause = .notDeclared decl.symbol)
        (List.Forall₂ r.Resizes decls) :=
  ⟨exact_declareWith_strict h, exact_declareWith_relaxed h, exact_updateSizes h⟩

/-- A listing that names a new symbol and a registered one: the strict declaration and the change of
sizes leave the registry alone, and the relaxed declaration puts both dimensions over the old
one. -/
theorem updates_exact_of_mixed_listing :
    let r : Registry := { table := [⟨⟨"Batch", "b", some 20⟩, 0⟩], nextStamp := 1 }
    let spec := "Extra(x):1 Other(b):3"
    let decls : List Decl := [⟨"Extra", "x", some 1⟩, ⟨"Other", "b", some 3⟩]
    readListing spec = .ok decls ∧ (r.declareWith .strict spec).registry = r ∧
      (∃ dims, (r.declareWith .relaxed spec).result = .ok dims ∧ dims.map Dim.decl = decls) ∧
      (r.updateSizes spec).registry = r := by
  intro r spec decls
  have hread : readListing spec = .ok decls := by decide +kernel
  obtain ⟨hstrict, hrelaxed, hsizes⟩ := updates_exact hread (r := r)
  refine ⟨hread, ?_, ?_, ?_⟩
  · have hnot : ¬AllNew r.symbols decls := fun hnew =>
      hnew.2 ⟨"Other", "b", some 3⟩ (by decide) (by decide)
    obtain ⟨cause, hcause, _⟩ := hstrict.refused hnot
    exact hstrict.unchanged _ hcause
  · obtain ⟨dims, hdims⟩ := hrelaxed.succeeds_iff.2 trivial
    exact ⟨dims, hdims, (hrelaxed.performed dims hdims).1⟩
  · have hnot : ¬AllKnown r.symbols decls := fun hknown =>
      absurd (hknown ⟨"Extra", "x", some 1⟩ (by decide)) (by decide)
    obtain ⟨cause, hcause, _⟩ := hsizes.refused hnot
    exact hsizes.unchanged _ hcause

end ShapeAlgebra.Registry
