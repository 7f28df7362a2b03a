import ShapeAlgebra.Dim.Listing
import ShapeAlgebra.Proofs.Text.Lexeme

/-!
# The grammar of listings

The grammar of declarations is

* `listing := ws* entry (ws+ entry)* ws*`,
* `entry := (ident symbol? | symbol) (':' size)?`,
* `symbol := '(' ws* ident ws* ')'`,

where `ws` is a blank and a size is a positive numeral.  Of name and symbol the one that is left out
equals the other.  What the grammar generates is valid, and the text of a valid declaration is an
entry for it.
-/

namespace ShapeAlgebra.Decl

open Text

/-- A declaration whose name and symbol are identifiers and whose size, if it has one, is
positive. -/
structure Valid (d : Decl) : Prop where
  name : Identifier d.name.toList
  symbol : Identifier d.symbol.toList
  size : ∀ n ∈ d.size, 0 < n.toInt

/-- Whether a declaration is valid can be decided, by checking its names and its size. -/
lemma valid_iff {d : Decl} :
    d.Valid ↔ isIdentifier d.name.toList = true ∧ isIdentifier d.symbol.toList = true ∧
      d.size.all (fun n => decide (0 < n.toInt)) = true := by
  simp only [isIdentifier_iff, Option.all_eq_true, decide_eq_true_eq]
  exact ⟨fun h => ⟨h.name, h.symbol, h.size⟩, fun ⟨hname, hsymbol, hsize⟩ =>
    ⟨hname, hsymbol, hsize⟩⟩

instance (d : Decl) : Decidable d.Valid := decidable_of_iff _ valid_iff.symm

/-! ## The rules -/

/-- A symbol in parentheses. -/
inductive SymbolText : List Char → String → Prop where
  | parentheses {before after : List Char} {symbol : String} : Blanks before →
    Identifier symbol.toList → Blanks after →
      SymbolText ('(' :: (before ++ (symbol.toList ++ (after ++ [')'])))) symbol

/-- An entry without its size, and the name and the symbol that it states. -/
inductive NamesText : List Char → String → String → Prop where
  | name {name : String} : Identifier name.toList → NamesText name.toList name name
  | symbol {cs : List Char} {symbol : String} : SymbolText cs symbol → NamesText cs symbol symbol
  | both {cs : List Char} {name symbol : String} : Identifier name.toList →
    SymbolText cs symbol → NamesText (name.toList ++ cs) name symbol

/-- An entry, and the declaration that it states. -/
inductive EntryText : List Char → Decl → Prop where
  | unsized {cs : List Char} {name symbol : String} : NamesText cs name symbol →
    EntryText cs ⟨name, symbol, none⟩
  | sized {cs digits : List Char} {name symbol : String} {size : Size} :
    NamesText cs name symbol → PositiveNumeral digits size →
      EntryText (cs ++ ':' :: digits) ⟨name, symbol, some size⟩

/-- Entries with blanks between them, and possibly behind the last one. -/
inductive EntriesText : List Char → List Decl → Prop where
  | last {entry after : List Char} {d : Decl} : EntryText entry d → Blanks after →
    EntriesText (entry ++ after) [d]
  | more {entry blanks cs : List Char} {d : Decl} {ds : List Decl} : EntryText entry d →
    Blanks blanks → blanks ≠ [] → EntriesText cs ds →
      EntriesText (entry ++ (blanks ++ cs)) (d :: ds)

/-- A listing, and the declarations that it states. -/
inductive ListingText : List Char → List Decl → Prop where
  | entries {before cs : List Char} {ds : List Decl} : Blanks before → EntriesText cs ds →
    ListingText (before ++ cs) ds

variable {cs blanks : List Char} {d : Decl} {ds : List Decl} {name symbol : String}

/-- Blanks may be put in front of a listing. -/
lemma ListingText.blanks_append (hblanks : Blanks blanks) (h : ListingText cs ds) :
    ListingText (blanks ++ cs) ds := by
  obtain ⟨hbefore, hentries⟩ := h
  rw [← List.append_assoc]
  exact .entries (hblanks.append hbefore) hentries

/-- Entries are a listing without blanks around them. -/
lemma EntriesText.listingText (h : EntriesText cs ds) : ListingText cs ds := by
  have hlisting := ListingText.entries blanks_nil h
  exact hlisting

/-! ## Validity -/

/-- What stands in parentheses is an identifier. -/
lemma SymbolText.identifier (h : SymbolText cs symbol) : Identifier symbol.toList := by
  obtain ⟨_, hidentifier, _⟩ := h
  exact hidentifier

/-- Both names of an entry are identifiers. -/
lemma NamesText.identifier (h : NamesText cs name symbol) :
    Identifier name.toList ∧ Identifier symbol.toList := by
  cases h with
  | name hname => exact ⟨hname, hname⟩
  | symbol hsymbol => exact ⟨hsymbol.identifier, hsymbol.identifier⟩
  | both hname hsymbol => exact ⟨hname, hsymbol.identifier⟩

/-- Every entry of the grammar states a valid declaration. -/
lemma EntryText.valid (h : EntryText cs d) : d.Valid := by
  cases h with
  | unsized hnames => exact ⟨hnames.identifier.1, hnames.identifier.2, by simp⟩
  | sized hnames hdigits =>
    exact ⟨hnames.identifier.1, hnames.identifier.2, by simpa using hdigits.pos⟩

/-- Entries state at least one declaration, and only valid ones. -/
lemma EntriesText.valid (h : EntriesText cs ds) : ds ≠ [] ∧ ∀ d ∈ ds, d.Valid := by
  induction h with
  | last hentry _ =>
    refine ⟨List.cons_ne_nil _ _, fun d hd => ?_⟩
    rw [List.mem_singleton.1 hd]
    exact hentry.valid
  | more hentry _ _ _ ih =>
    refine ⟨List.cons_ne_nil _ _, fun d hd => ?_⟩
    rcases List.mem_cons.1 hd with rfl | hd
    · exact hentry.valid
    · exact ih.2 d hd

/-- A listing states at least one declaration, and only valid ones. -/
lemma ListingText.valid (h : ListingText cs ds) : ds ≠ [] ∧ ∀ d ∈ ds, d.Valid := by
  obtain ⟨_, hentries⟩ := h
  exact hentries.valid

/-! ## Texts of declarations -/

/-- The text of a size is its numeral behind a colon. -/
lemma toList_sizeSuffix_some (n : Size) :
    (sizeSuffix (some n)).toList = ':' :: n.text.toList := by
  rw [sizeSuffix, String.toList_append]
  rfl

/-- The name and the symbol of a valid declaration, written out, are names of the grammar. -/
lemma Valid.namesText (h : d.Valid) :
    NamesText (d.name ++ "(" ++ d.symbol ++ ")").toList d.name d.symbol := by
  have hsymbol := SymbolText.parentheses blanks_nil h.symbol blanks_nil
  have hboth := NamesText.both h.name hsymbol
  simpa [String.toList_append] using hboth

/-- The text of a valid declaration is an entry for it. -/
lemma Valid.entryText (h : d.Valid) : EntryText d.text.toList d := by
  obtain ⟨name, symbol, size⟩ := d
  rw [text, String.toList_append]
  cases size with
  | none =>
    have hunsized := EntryText.unsized h.namesText
    rwa [← List.append_nil (String.toList _)] at hunsized
  | some n =>
    rw [toList_sizeSuffix_some]
    exact .sized h.namesText (positiveNumeral_text (h.size n rfl))

end ShapeAlgebra.Decl
