import ShapeAlgebra.Proofs.Dim.Cutting

/-!
# Reading listings

Listings are read exactly as their grammar generates them.  In particular the texts of valid
declarations, with blanks between them, are read as these declarations.
-/

namespace ShapeAlgebra.Decl

open Text

variable {ds : List Decl}

/-! ## Listings -/

/-- A listing is read if it has tokens whose entries can all be read, and there is one at least. -/
lemma readAll?_eq_some_iff_of_tokens {listing : String} :
    readAll? listing = some ds ↔ ds ≠ [] ∧ ∃ ts, Token.ofChars? listing.toList = some ts ∧
      (entries ts).mapM readEntry? = some ds := by
  constructor
  · intro h
    obtain ⟨ts, hts, hrest⟩ := Option.bind_eq_some_iff.1 h
    obtain ⟨ds', hds, hresult⟩ := Option.bind_eq_some_iff.1 hrest
    split at hresult
    · cases hresult
    · rename_i hne
      obtain rfl := Option.some.inj hresult
      exact ⟨hne, ts, hts, hds⟩
  · rintro ⟨hne, ts, hts, hds⟩
    refine Option.bind_eq_some_iff.2 ⟨ts, hts, Option.bind_eq_some_iff.2 ⟨ds, hds, ?_⟩⟩
    exact if_neg hne

/-- A text is read as declarations when the grammar generates it with them. -/
lemma readAll?_eq_some_iff {listing : String} :
    readAll? listing = some ds ↔ ListingText listing.toList ds := by
  rw [readAll?_eq_some_iff_of_tokens]
  constructor
  · rintro ⟨hne, ts, hts, hds⟩
    have hparts : [.space].intercalate ((tighten ts).splitOn .space) = tighten ts :=
      List.intercalate_splitOn _
    have hspelled := (spelled_of_ofChars? hts).tighten
    rw [← hparts] at hspelled
    rcases hspelled.blankOrListing hds with ⟨hnil, _⟩ | hlisting
    · exact absurd hnil hne
    · exact hlisting
  · rintro h
    generalize listing.toList = cs at h
    obtain @⟨before, cs, _, hbefore, hentries⟩ := h
    obtain ⟨ts, hts⟩ := hentries.reads
    have htokens := Token.ofChars?_append (hbefore.apart hts.first)
      (Token.ofChars?_of_blanks hbefore) hts.tokens
    refine ⟨hentries.valid.1, _, htokens, ?_⟩
    unfold Token.spaces
    split
    · exact hts.read
    · change (entries (.space :: ts)).mapM readEntry? = some ds
      rw [entries_space hts.opens]
      exact hts.read

/-! ## Joined texts -/

/-- The text of a declaration, and behind it those of others, each behind blanks of its own. -/
def joined (d : Decl) : List (String × Decl) → String
  | [] => d.text
  | (blanks, next) :: rest => d.text ++ (blanks ++ joined next rest)

/-- Valid declarations, written out with blanks between them, are entries of the grammar. -/
lemma entriesText_joined {first : Decl} {rest : List (String × Decl)} (hfirst : first.Valid)
    (hrest : ∀ p ∈ rest, p.1 ≠ "" ∧ Blanks p.1.toList ∧ p.2.Valid) :
    EntriesText (joined first rest).toList (first :: rest.map Prod.snd) := by
  induction rest generalizing first with
  | nil =>
    have hlast := EntriesText.last hfirst.entryText blanks_nil
    rwa [List.append_nil] at hlast
  | cons p rest ih =>
    obtain ⟨blanks, next⟩ := p
    obtain ⟨hne, hblanks, hnext⟩ := hrest _ List.mem_cons_self
    have hmore := ih hnext fun p hp => hrest p (List.mem_cons_of_mem _ hp)
    rw [joined, String.toList_append, String.toList_append]
    exact .more hfirst.entryText hblanks (by simpa using hne) hmore

/-- The texts of valid declarations, with blanks between them, are read as these declarations. -/
lemma readAll?_joined {first : Decl} {rest : List (String × Decl)} (hfirst : first.Valid)
    (hrest : ∀ p ∈ rest, p.1 ≠ "" ∧ Blanks p.1.toList ∧ p.2.Valid) :
    readAll? (joined first rest) = some (first :: rest.map Prod.snd) :=
  readAll?_eq_some_iff.2 (entriesText_joined hfirst hrest).listingText

/-- Declarations that are joined by one separator are the intercalation of their texts. -/
lemma joined_eq_intercalate (separator : String) (d : Decl) (ds : List Decl) :
    joined d (ds.map fun d' => (separator, d')) = separator.intercalate ((d :: ds).map text) := by
  induction ds generalizing d with
  | nil => exact String.intercalate_singleton.symm
  | cons d' ds ih =>
    rw [List.map_cons, joined, ih]
    simp only [List.map_cons, String.intercalate_cons_cons, String.append_assoc]

/-- The separator may be the same everywhere. -/
lemma readAll?_intercalate {separator : String} (hne : separator ≠ "")
    (hblanks : Blanks separator.toList) (hds : ds ≠ []) (hvalid : ∀ d ∈ ds, d.Valid) :
    readAll? (separator.intercalate (ds.map text)) = some ds := by
  obtain ⟨d, rest, rfl⟩ := List.exists_cons_of_ne_nil hds
  rw [← joined_eq_intercalate, readAll?_joined (hvalid d List.mem_cons_self)]
  · rw [List.map_map]
    exact congrArg (fun rest => some (d :: rest)) (List.map_id rest)
  · intro p hp
    obtain ⟨d', hd', rfl⟩ := List.mem_map.1 hp
    exact ⟨hne, hblanks, hvalid d' (List.mem_cons_of_mem d hd')⟩

/-- A text is read as declarations exactly if the grammar generates it with them.  Then there is at
least one and all are valid, and the texts of valid declarations, with blanks between them, are read
as these declarations. -/
theorem readAll?_follows_grammar :
    (∀ listing ds, readAll? listing = some ds ↔ ListingText listing.toList ds) ∧
      (∀ listing ds, readAll? listing = some ds → ds ≠ [] ∧ ∀ d ∈ ds, d.Valid) ∧
      ∀ first rest, first.Valid → (∀ p ∈ rest, p.1 ≠ "" ∧ Blanks p.1.toList ∧ p.2.Valid) →
        readAll? (joined first rest) = some (first :: rest.map Prod.snd) := by
  refine ⟨fun listing ds => readAll?_eq_some_iff, fun listing ds h => ?_,
    fun first rest hfirst hrest => readAll?_joined hfirst hrest⟩
  exact (readAll?_eq_some_iff.1 h).valid

/-- Three declarations, of which the second has no size, with line ends and spaces between them. -/
theorem readAll?_follows_grammar_lines :
    let first : Decl := ⟨"Batch", "b", some 20⟩
    let rest : List (String × Decl) :=
      [("\n", ⟨"SeqLength", "t", none⟩), (" \t ", ⟨"K_1", "K_1", some 7⟩)]
    first.Valid ∧ (∀ p ∈ rest, p.1 ≠ "" ∧ Blanks p.1.toList ∧ p.2.Valid) ∧
      joined first rest = "Batch(b):20\nSeqLength(t) \t K_1(K_1):7" ∧
      readAll? (joined first rest) = some (first :: rest.map Prod.snd) := by
  intro first rest
  have hfirst : first.Valid := by decide
  have hrest : ∀ p ∈ rest, p.1 ≠ "" ∧ Blanks p.1.toList ∧ p.2.Valid := by
    intro p hp
    rcases List.mem_pair.1 hp with rfl | rfl <;> decide
  exact ⟨hfirst, hrest, by decide, readAll?_follows_grammar.2.2 first rest hfirst hrest⟩

/-- A blank in front of the parenthesis makes two declarations. -/
example : readAll? "Batch (b)" = some [⟨"Batch", "Batch", none⟩, ⟨"b", "b", none⟩] := rfl

end ShapeAlgebra.Decl
