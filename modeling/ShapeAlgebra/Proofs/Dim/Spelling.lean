import ShapeAlgebra.Proofs.Dim.Grammar

/-!
# What listings are written as

A listing that can be read is one that the grammar generates.  The proof follows the strokes of the
reader with a loose notion of spelling, by which a parenthesis may be written with blanks on its
inner side: the tokens of a text spell it, and they still do so when the blanks inside the
parentheses are dropped.  How an entry is written can then be told from its tokens, and the spaces
that are left are the blanks between the entries.
-/

namespace ShapeAlgebra.Decl

open Text

variable {cs : List Char} {d : Decl} {ds : List Decl} {name symbol : String}
  {ts us : List Token}

/-! ## Words -/

/-- A word is read as a name if and only if it is an identifier, and then it is its own name. -/
lemma identifier?_eq_some_iff {word : List Char} :
    identifier? word = some name ↔ Identifier name.toList ∧ word = name.toList := by
  unfold identifier?
  constructor
  · intro h
    split at h
    · rename_i hword
      obtain rfl := Option.some.inj h
      rw [String.toList_ofList]
      exact ⟨isIdentifier_iff.1 hword, rfl⟩
    · cases h
  · rintro ⟨hname, rfl⟩
    rw [if_pos (isIdentifier_iff.2 hname), String.ofList_toList]

/-- The size of an entry is read from the positive numerals and from nothing else. -/
lemma readSize?_eq_some_iff {digits : List Char} {n : Size} :
    readSize? digits = some n ↔ PositiveNumeral digits n := by
  rw [readSize?, Option.filter_eq_some_iff, numeral?_eq_some_iff, decide_eq_true_eq]
  constructor
  · rintro ⟨⟨_, rfl⟩ | hdigits, hne⟩
    · exact absurd rfl hne
    · exact hdigits
  · intro hdigits
    refine ⟨.inr hdigits, ?_⟩
    rintro rfl
    exact absurd hdigits.pos (by decide)

/-! ## Loose spelling -/

/-- How a token may be written when blanks inside parentheses belong to the parentheses. -/
inductive Token.Spells : Token → List Char → Prop where
  | word (chars : List Char) : Spells (.word chars) chars
  | opening {after : List Char} : Blanks after → Spells .opening ('(' :: after)
  | closing {before : List Char} : Blanks before → Spells .closing (before ++ [')'])
  | colon : Spells .colon [':']
  | space {blanks : List Char} : Blanks blanks → blanks ≠ [] → Spells .space blanks

/-- `Spelled ts cs` says that the text `cs` consists of the tokens `ts`, in order. -/
inductive Spelled : List Token → List Char → Prop where
  | nil : Spelled [] []
  | cons {t : Token} {ts : List Token} {piece cs : List Char} : t.Spells piece →
    Spelled ts cs → Spelled (t :: ts) (piece ++ cs)

/-- The punctuation of listings. -/
inductive IsMark : Char → Prop where
  | opening : IsMark '('
  | closing : IsMark ')'
  | colon : IsMark ':'

/-- Punctuation belongs to no lexeme of more than one character. -/
lemma IsMark.joins_eq_false {c : Char} (hc : IsMark c) (y : Char) :
    joins c y = false ∧ joins y c = false := by
  have hword : isWordChar c = false := by cases hc <;> rfl
  have hblank : isBlank c = false := by cases hc <;> rfl
  have hslash : (c == '/') = false := by cases hc <;> rfl
  simp [joins, hword, hblank, hslash]

/-- A lexeme spells the token that it is. -/
lemma Token.spells_of_ofLexeme? {t : Token} {l : List Char} (hl : l ∈ lexemes cs)
    (h : Token.ofLexeme? l = some t) : t.Spells l := by
  unfold Token.ofLexeme? at h
  split at h
  case h_1 => cases h
  case h_2 =>
    obtain rfl := Option.some.inj h
    rw [eq_nil_of_mem_lexemes hl fun y => (IsMark.opening.joins_eq_false y).1]
    exact .opening blanks_nil
  case h_3 =>
    obtain rfl := Option.some.inj h
    rw [eq_nil_of_mem_lexemes hl fun y => (IsMark.closing.joins_eq_false y).1]
    exact .closing blanks_nil
  case h_4 =>
    obtain rfl := Option.some.inj h
    rw [eq_nil_of_mem_lexemes hl fun y => (IsMark.colon.joins_eq_false y).1]
    exact .colon
  case h_5 =>
    split at h
    · obtain rfl := Option.some.inj h
      exact .word _
    · split at h
      · rename_i hblank
        obtain rfl := Option.some.inj h
        exact .space (blanks_of_mem_lexemes hl hblank) (List.cons_ne_nil _ _)
      · cases h

/-- The tokens of some lexemes spell what the lexemes are one behind the other. -/
lemma spelled_flatten {ls : List (List Char)} (hls : ∀ l ∈ ls, l ∈ lexemes cs)
    (h : ls.mapM Token.ofLexeme? = some ts) : Spelled ts ls.flatten := by
  induction ls generalizing ts with
  | nil =>
    obtain rfl := Option.some.inj h
    exact .nil
  | cons l ls ih =>
    rw [List.mapM_cons] at h
    obtain ⟨t, ht, hrest⟩ := Option.bind_eq_some_iff.1 h
    obtain ⟨us, hus, hcons⟩ := Option.bind_eq_some_iff.1 hrest
    obtain rfl := Option.some.inj hcons
    have hl : t.Spells l := Token.spells_of_ofLexeme? (hls l List.mem_cons_self) ht
    exact .cons hl (ih (fun l' hl' => hls l' (List.mem_cons_of_mem l hl')) hus)

/-- A text is spelled by its tokens. -/
lemma spelled_of_ofChars? (h : Token.ofChars? cs = some ts) : Spelled ts cs := by
  have hflatten : (lexemes cs).flatten = cs := List.flatten_splitBy joins cs
  rw [← hflatten]
  exact spelled_flatten (fun _ hl => hl) h

namespace Spelled

/-- Dropping the blanks inside parentheses leaves the text spelled. -/
lemma tighten (h : Spelled ts cs) : Spelled (tighten ts) cs := by
  induction ts using Decl.tighten.induct generalizing cs with
  | case1 ts ih =>
    cases h with
    | cons hopening hrest =>
      cases hrest with
      | @cons _ _ blanks rest hspace hrest =>
        cases hopening with | @opening after hafter =>
        cases hspace with | space hblanks _ =>
        -- the blank behind the parenthesis becomes part of its own spelling
        have hboth : Spelled (.opening :: Decl.tighten ts) ('(' :: (after ++ blanks) ++ rest) :=
          .cons (.opening (hafter.append hblanks)) (ih hrest)
        simpa [Decl.tighten] using hboth
  | case2 ts ih =>
    cases h with
    | @cons _ _ blanks _ hspace hrest =>
      cases hrest with
      | @cons _ _ _ rest hclosing hrest =>
        cases hspace with | space hblanks _ =>
        cases hclosing with | @closing before hbefore =>
        have hboth : Spelled (.closing :: Decl.tighten ts) (blanks ++ before ++ [')'] ++ rest) :=
          .cons (.closing (hblanks.append hbefore)) (ih hrest)
        simpa [Decl.tighten] using hboth
  | case3 t ts hopening hclosing ih =>
    rw [Decl.tighten.eq_3 _ _ hopening hclosing]
    cases h with
    | cons ht hrest => exact .cons ht (ih hrest)
  | case4 => exact h

/-- The tokens of two parts are written one behind the other. -/
lemma split (ts : List Token) (h : Spelled (ts ++ us) cs) :
    ∃ a b, cs = a ++ b ∧ Spelled ts a ∧ Spelled us b := by
  induction ts generalizing cs with
  | nil => exact ⟨[], cs, rfl, .nil, h⟩
  | cons t ts ih =>
    cases h with
    | @cons _ _ piece rest ht hrest =>
      obtain ⟨a, b, rfl, ha, hb⟩ := ih hrest
      exact ⟨piece ++ a, b, (List.append_assoc _ _ _).symm, .cons ht ha, hb⟩

/-- A text with a single token is a spelling of it. -/
lemma single {t : Token} (h : Spelled [t] cs) : t.Spells cs := by
  cases h with
  | cons ht hnil =>
    cases hnil
    rwa [List.append_nil]

/-! ## What entries are written as -/

/-- A text with the tokens of a symbol is one in the grammar. -/
lemma symbolText (hsymbol : Identifier symbol.toList)
    (h : Spelled [.opening, .word symbol.toList, .closing] cs) : SymbolText cs symbol := by
  obtain ⟨a, b, rfl, hopening, hrest⟩ := h.split [.opening]
  obtain ⟨word, c, rfl, hword, hclosing⟩ := hrest.split [.word symbol.toList]
  cases hopening.single with | opening hbefore =>
  cases hword.single
  cases hclosing.single with | closing hafter =>
  exact .parentheses hbefore hsymbol hafter

/-- A text whose tokens are read as a name and a symbol is one in the grammar. -/
lemma namesText (hread : readNames? ts = some (name, symbol)) (h : Spelled ts cs) :
    NamesText cs name symbol := by
  unfold readNames? at hread
  split at hread
  case h_1 =>
    obtain ⟨name, hword, heq⟩ := Option.map_eq_some_iff.1 hread
    obtain ⟨rfl, rfl⟩ := Prod.mk.inj heq
    obtain ⟨hname, rfl⟩ := identifier?_eq_some_iff.1 hword
    cases h.single
    exact .name hname
  case h_2 =>
    obtain ⟨symbol, hword, heq⟩ := Option.map_eq_some_iff.1 hread
    obtain ⟨rfl, rfl⟩ := Prod.mk.inj heq
    obtain ⟨hsymbol, rfl⟩ := identifier?_eq_some_iff.1 hword
    exact .symbol (h.symbolText hsymbol)
  case h_3 =>
    obtain ⟨name, hword, hrest⟩ := Option.bind_eq_some_iff.1 hread
    obtain ⟨symbol, hword', heq⟩ := Option.bind_eq_some_iff.1 hrest
    obtain ⟨rfl, rfl⟩ := Prod.mk.inj (Option.some.inj heq)
    obtain ⟨hname, rfl⟩ := identifier?_eq_some_iff.1 hword
    obtain ⟨hsymbol, rfl⟩ := identifier?_eq_some_iff.1 hword'
    obtain ⟨a, b, rfl, ha, hb⟩ := h.split [.word name.toList]
    cases ha.single
    exact .both hname (hb.symbolText hsymbol)
  case h_4 => cases hread

/-- An entry that can be read is written as the grammar says. -/
lemma entryText (hread : readEntry? ts = some d) (h : Spelled ts cs) : EntryText cs d := by
  have hparts : [.colon].intercalate (ts.splitOn .colon) = ts := List.intercalate_splitOn _
  unfold readEntry? at hread
  split at hread
  case h_1 names hsplit =>
    rw [hsplit, List.intercalate_singleton] at hparts
    obtain ⟨⟨name, symbol⟩, hnames, heq⟩ := Option.bind_eq_some_iff.1 hread
    obtain rfl := Option.some.inj heq
    rw [← hparts] at h
    exact .unsized (h.namesText hnames)
  case h_2 names digits hsplit =>
    rw [hsplit, List.intercalate_cons_cons, List.intercalate_singleton,
      List.append_assoc] at hparts
    obtain ⟨⟨name, symbol⟩, hnames, hrest⟩ := Option.bind_eq_some_iff.1 hread
    obtain ⟨size, hsize, heq⟩ := Option.bind_eq_some_iff.1 hrest
    obtain rfl := Option.some.inj heq
    rw [← hparts] at h
    obtain ⟨a, b, rfl, ha, hb⟩ := h.split _
    obtain ⟨colon, c, rfl, hcolon, hword⟩ := hb.split [.colon]
    cases hcolon.single
    cases hword.single
    exact .sized (ha.namesText hnames) (readSize?_eq_some_iff.1 hsize)
  case h_3 => cases hread

end Spelled

/-! ## What listings are written as -/

/-- Blanks without any declaration, or a listing. -/
def BlankOrListing (cs : List Char) (ds : List Decl) : Prop :=
  (ds = [] ∧ Blanks cs) ∨ ListingText cs ds

namespace BlankOrListing

variable {blanks : List Char}

/-- Blanks may be put in front of blanks or a listing. -/
lemma blanks_append (hblanks : Blanks blanks) (h : BlankOrListing cs ds) :
    BlankOrListing (blanks ++ cs) ds := by
  rcases h with ⟨rfl, hcs⟩ | hlisting
  · exact .inl ⟨rfl, hblanks.append hcs⟩
  · exact .inr (hlisting.blanks_append hblanks)

/-- An entry in front of blanks and of what is blank or a listing makes a listing with one more
declaration. -/
lemma entry_append {entry : List Char} (hentry : EntryText entry d) (hblanks : Blanks blanks)
    (hne : blanks ≠ []) (h : BlankOrListing cs ds) :
    BlankOrListing (entry ++ (blanks ++ cs)) (d :: ds) := by
  rcases h with ⟨rfl, hcs⟩ | hlisting
  · have hlast := EntriesText.last hentry (hblanks.append hcs)
    exact .inr hlast.listingText
  · obtain ⟨hbefore, hentries⟩ := hlisting
    have hmore := EntriesText.more hentry (hblanks.append hbefore) (by simp [hne]) hentries
    rw [List.append_assoc] at hmore
    exact .inr hmore.listingText

end BlankOrListing

/-- What is read of parts is read of the first, unless it is empty, and of the others. -/
lemma of_mapM_readEntry?_cons {part : List Token} {parts : List (List Token)}
    (h : ((part :: parts).filter (· ≠ [])).mapM readEntry? = some ds) :
    (part = [] ∧ (parts.filter (· ≠ [])).mapM readEntry? = some ds) ∨
      ∃ d ds', ds = d :: ds' ∧ readEntry? part = some d ∧
        (parts.filter (· ≠ [])).mapM readEntry? = some ds' := by
  by_cases hpart : part = []
  · subst hpart
    exact .inl ⟨rfl, h⟩
  · rw [List.filter_cons_of_pos (by simpa using hpart), List.mapM_cons] at h
    obtain ⟨d, hd, hrest⟩ := Option.bind_eq_some_iff.1 h
    obtain ⟨ds', hds', hcons⟩ := Option.bind_eq_some_iff.1 hrest
    exact .inr ⟨d, ds', (Option.some.inj hcons).symm, hd, hds'⟩

/-- Parts of which all that are not empty can be read as entries, with blanks between them. -/
lemma Spelled.blankOrListing {parts : List (List Token)}
    (hread : (parts.filter (· ≠ [])).mapM readEntry? = some ds)
    (h : Spelled ([.space].intercalate parts) cs) : BlankOrListing cs ds := by
  induction parts generalizing cs ds with
  | nil =>
    obtain rfl := Option.some.inj hread
    cases h
    exact .inl ⟨rfl, blanks_nil⟩
  | cons part parts ih =>
    by_cases hlast : parts = []
    · subst hlast
      rw [List.intercalate_singleton] at h
      rcases of_mapM_readEntry?_cons hread with ⟨rfl, hrest⟩ | ⟨d, ds, rfl, hd, hrest⟩
      · obtain rfl := Option.some.inj hrest
        cases h
        exact .inl ⟨rfl, blanks_nil⟩
      · obtain rfl := Option.some.inj hrest
        have hentries := EntriesText.last (h.entryText hd) blanks_nil
        rw [List.append_nil] at hentries
        exact .inr hentries.listingText
    · rw [List.intercalate_cons_of_ne_nil hlast, List.append_assoc] at h
      obtain ⟨entry, rest, rfl, hentry, hrest⟩ := h.split _
      obtain ⟨blanks, cs, rfl, hspace, hcs⟩ := hrest.split _
      cases hspace.single with | space hblanks hne =>
      rcases of_mapM_readEntry?_cons hread with ⟨rfl, hrest⟩ | ⟨d, ds, rfl, hd, hrest⟩
      · cases hentry
        rw [List.nil_append]
        exact (ih hrest hcs).blanks_append hblanks
      · exact (ih hrest hcs).entry_append (hentry.entryText hd) hblanks hne

end ShapeAlgebra.Decl
