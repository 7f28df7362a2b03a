import ShapeAlgebra.Proofs.Dim.Spelling

/-!
# How listings are cut

What the grammar generates can be read.  A text is cut at its punctuation, which belongs to no
other lexeme, and where a blank and another character meet.  The tokens of an entry are tightened
by themselves, whatever stands behind them, and a space behind them is not tightened away, since
no entry starts with a closing parenthesis.
-/

namespace ShapeAlgebra.Decl

open Text

variable {cs : List Char} {d : Decl} {ds : List Decl} {name symbol : String}
  {ts us : List Token}

/-! ## Cutting texts -/

/-- Where two texts do not join, the tokens of the whole are those of the first and then those of
the second. -/
lemma Token.ofChars?_append {a b : List Char} (hseam : Apart a b)
    (ha : Token.ofChars? a = some ts) (hb : Token.ofChars? b = some us) :
    Token.ofChars? (a ++ b) = some (ts ++ us) := by
  unfold Token.ofChars? at ha hb ⊢
  rw [lexemes_append hseam, List.mapM_append, ha, hb]
  rfl

/-- Punctuation is apart from what stands before it and behind it. -/
lemma IsMark.apart {c : Char} (hc : IsMark c) (a b : List Char) :
    Apart a (c :: b) ∧ Apart [c] b := by
  constructor
  · intro x _ y hy
    obtain rfl := Option.some.inj hy
    exact (hc.joins_eq_false x).2
  · intro x hx y _
    obtain rfl := Option.some.inj hx
    exact (hc.joins_eq_false y).1

/-- A text is cut at its punctuation. -/
lemma Token.ofChars?_mark {c : Char} (hc : IsMark c) {t : Token}
    (ht : Token.ofChars? [c] = some [t]) {a b : List Char} (ha : Token.ofChars? a = some ts)
    (hb : Token.ofChars? b = some us) :
    Token.ofChars? (a ++ c :: b) = some (ts ++ t :: us) := by
  obtain ⟨hbefore, hbehind⟩ := hc.apart a b
  exact Token.ofChars?_append hbefore ha (Token.ofChars?_append hbehind ht hb)

/-- A lexeme that starts with no punctuation mark is a word, blank or unknown. -/
lemma Token.ofLexeme?_cons {c : Char} {rest : List Char} (hc : ¬ IsMark c) :
    Token.ofLexeme? (c :: rest) =
      if isWordChar c then some (.word (c :: rest))
      else if isBlank c then some .space
      else none := by
  apply Token.ofLexeme?.eq_5
  all_goals
    rintro rfl
    exact hc (by constructor)

/-- A run of word characters is a single token. -/
lemma Token.ofChars?_of_isWordChar {word : List Char} (hne : word ≠ [])
    (h : ∀ c ∈ word, isWordChar c = true) : Token.ofChars? word = some [.word word] := by
  obtain ⟨c, rest, rfl⟩ := List.exists_cons_of_ne_nil hne
  have hc : isWordChar c = true := h c List.mem_cons_self
  have hmark : ¬ IsMark c := by
    rintro ⟨⟩ <;> exact absurd hc (by decide)
  rw [Token.ofChars?, lexemes_of_isWordChar hne h, List.mapM_cons, Token.ofLexeme?_cons hmark,
    if_pos hc]
  rfl

/-- The token of a run of blanks, if the run is not empty. -/
def Token.spaces (blanks : List Char) : List Token := if blanks = [] then [] else [.space]

/-- A run of blanks is at most a single token. -/
lemma Token.ofChars?_of_blanks {blanks : List Char} (h : Blanks blanks) :
    Token.ofChars? blanks = some (Token.spaces blanks) := by
  by_cases hne : blanks = []
  · rw [hne]
    rfl
  · obtain ⟨c, rest, rfl⟩ := List.exists_cons_of_ne_nil hne
    have hc : isBlank c = true := h c List.mem_cons_self
    have hmark : ¬ IsMark c := by
      rintro ⟨⟩ <;> exact absurd hc (by decide)
    rw [Token.ofChars?, lexemes_of_blanks hne h, List.mapM_cons, Token.ofLexeme?_cons hmark,
      if_neg (by rw [isWordChar_of_isBlank hc]; decide), if_pos hc, Token.spaces, if_neg hne]
    rfl

/-! ## Tightening texts -/

/-- A space stays unless a closing parenthesis follows. -/
lemma tighten_space (h : ts.head? ≠ some .closing) :
    tighten (.space :: ts) = .space :: tighten ts := by
  apply tighten.eq_3
  · intro us hspace
    cases hspace
  · rintro us - rfl
    exact h rfl

/-- A text without blanks at its ends, of which the tokens are tightened to `us` whatever
follows. -/
structure Tight (cs : List Char) (us : List Token) : Prop where
  first : ∀ x ∈ cs.head?, isBlank x = false
  last : ∀ x ∈ cs.getLast?, isBlank x = false
  tokens : ∃ t ts, Token.ofChars? cs = some (t :: ts) ∧ t ≠ .closing ∧
    ∀ rest, tighten (t :: ts ++ rest) = us ++ tighten rest

namespace Tight

variable {a b word : List Char} {vs : List Token}

/-- A tight text is not empty. -/
lemma ne_nil (h : Tight cs us) : cs ≠ [] := by
  obtain ⟨t, ts, htokens, _⟩ := h.tokens
  rintro rfl
  cases htokens

/-- Tight texts that do not join at the seam are tight together. -/
lemma append (hseam : Apart a b) (ha : Tight a us) (hb : Tight b vs) :
    Tight (a ++ b) (us ++ vs) where
  first := by
    rw [List.head?_append_of_ne_nil a ha.ne_nil]
    exact ha.first
  last := by
    rw [List.getLast?_append_of_ne_nil a hb.ne_nil]
    exact hb.last
  tokens := by
    obtain ⟨t, ts, hts, ht, htighten⟩ := ha.tokens
    obtain ⟨t', ts', hts', _, htighten'⟩ := hb.tokens
    refine ⟨t, ts ++ t' :: ts', Token.ofChars?_append hseam hts hts', ht, fun rest => ?_⟩
    have hrest := htighten (t' :: ts' ++ rest)
    rw [htighten' rest] at hrest
    simpa using hrest

/-- A word is tight. -/
lemma of_isWordChar (hne : word ≠ []) (h : ∀ c ∈ word, isWordChar c = true) :
    Tight word [.word word] where
  first x hx := isBlank_of_isWordChar (h x (List.mem_of_head? hx))
  last x hx := isBlank_of_isWordChar (h x (List.mem_of_getLast? hx))
  tokens := ⟨.word word, [], Token.ofChars?_of_isWordChar hne h, nofun, fun _ => rfl⟩

/-- A colon is tight. -/
lemma colon : Tight [':'] [.colon] where
  first x hx := by
    obtain rfl := Option.some.inj hx
    rfl
  last x hx := by
    obtain rfl := Option.some.inj hx
    rfl
  tokens := ⟨.colon, [], rfl, nofun, fun _ => rfl⟩

/-- A symbol in parentheses is tight, and the blanks inside of them are gone. -/
lemma symbolText (h : SymbolText cs symbol) :
    Tight cs [.opening, .word symbol.toList, .closing] := by
  cases h with | @parentheses before after symbol hbefore hsymbol hafter =>
  have hword := hsymbol.all_isWordChar
  have hseam : Apart symbol.toList after :=
    apart_of_isWordChar (fun x hx => hword x (List.mem_of_getLast? hx))
      fun y hy => isWordChar_of_isBlank (hafter y (List.mem_of_head? hy))
  have hseam' : Apart before (symbol.toList ++ after) := by
    refine hbefore.apart fun y hy => ?_
    rw [List.head?_append_of_ne_nil _ hsymbol.ne_nil] at hy
    exact isBlank_of_isWordChar (hword y (List.mem_of_head? hy))
  -- the blanks on both sides are tokens of their own, since they do not join with the word
  have hinner : Token.ofChars? (before ++ (symbol.toList ++ after)) =
      some (Token.spaces before ++ ([.word symbol.toList] ++ Token.spaces after)) :=
    Token.ofChars?_append hseam' (Token.ofChars?_of_blanks hbefore)
      (Token.ofChars?_append hseam (Token.ofChars?_of_isWordChar hsymbol.ne_nil hword)
        (Token.ofChars?_of_blanks hafter))
  have hnil : Token.ofChars? [] = some [] := rfl
  have hclosed := Token.ofChars?_mark (t := .closing) .closing rfl hinner hnil
  have hopened := Token.ofChars?_mark (t := .opening) .opening rfl hnil hclosed
  simp only [List.append_assoc, List.nil_append] at hopened
  constructor
  · intro x hx
    obtain rfl := Option.some.inj hx
    rfl
  · intro x hx
    have hlast : x = ')' := by simpa [List.getLast?_cons, eq_comm] using hx
    rw [hlast]
    rfl
  · -- with or without blanks on either side, tightening leaves the same three tokens
    refine ⟨_, _, hopened, nofun, fun rest => ?_⟩
    unfold Token.spaces
    split <;> split <;> rfl

end Tight

/-! ## Reading what the grammar generates -/

/-- An entry without its size is read from its tokens, none of which is a space or a colon. -/
lemma NamesText.read (h : NamesText cs name symbol) :
    ∃ us, Tight cs us ∧ readNames? us = some (name, symbol) ∧ .space ∉ us ∧ .colon ∉ us := by
  have hread {s : String} (hs : Identifier s.toList) : identifier? s.toList = some s :=
    identifier?_eq_some_iff.2 ⟨hs, rfl⟩
  cases h with
  | name hname =>
    refine ⟨_, .of_isWordChar hname.ne_nil hname.all_isWordChar, ?_, by simp, by simp⟩
    simp [readNames?, hread hname]
  | symbol hsymbol =>
    refine ⟨_, .symbolText hsymbol, ?_, by simp, by simp⟩
    simp [readNames?, hread hsymbol.identifier]
  | @both cs _ _ hname hsymbol =>
    have hseam : Apart name.toList cs := by
      cases hsymbol with
      | parentheses => exact (IsMark.opening.apart _ _).1
    refine ⟨_, (Tight.of_isWordChar hname.ne_nil hname.all_isWordChar).append hseam
      (.symbolText hsymbol), ?_, by simp, by simp⟩
    simp [readNames?, hread hname, hread hsymbol.identifier]

/-- An entry is read from its tokens, none of which is a space. -/
lemma EntryText.read (h : EntryText cs d) :
    ∃ us, Tight cs us ∧ readEntry? us = some d ∧ .space ∉ us := by
  cases h with
  | unsized hnames =>
    obtain ⟨us, htight, hread, hspace, hcolon⟩ := hnames.read
    refine ⟨us, htight, ?_, hspace⟩
    simp [ readEntry?, List.splitOn_eq_singleton hcolon, hread]
  | @sized cs digits _ _ size hnames hdigits =>
    obtain ⟨us, htight, hread, hspace, hcolon⟩ := hnames.read
    have hnumeral : Numeral digits size := .inr hdigits
    have hword := Tight.of_isWordChar hnumeral.ne_nil hnumeral.all_isWordChar
    obtain ⟨hbefore, hbehind⟩ := IsMark.colon.apart cs digits
    refine ⟨_, htight.append hbefore (Tight.colon.append hbehind hword), ?_, by simp [hspace]⟩
    have hsplit : (us ++ [Token.colon, .word digits]).splitOn .colon =
        [us, [.word digits]] := by
      rw [List.splitOn_append_cons_self_of_not_mem hcolon, List.splitOn_eq_singleton (by simp)]
    simp [ readEntry?, hsplit, hread, readSize?_eq_some_iff.2 hdigits]

/-! ## Cutting at spaces -/

/-- Tokens behind an entry: none, or those behind a space. -/
def Separated (ts : List Token) : Prop :=
  ts = [] ∨ ∃ us, ts = .space :: us ∧ us.head? ≠ some .closing

/-- A space in front does not change the entries, unless a closing parenthesis follows. -/
lemma entries_space (h : ts.head? ≠ some .closing) : entries (.space :: ts) = entries ts := by
  unfold entries
  rw [tighten_space h]
  rfl

/-- The tokens of an entry are cut from what is behind it. -/
lemma entries_append {es : List Token} (hne : us ≠ []) (hspace : .space ∉ us)
    (htighten : ∀ rest, tighten (es ++ rest) = us ++ tighten rest) (h : Separated ts) :
    entries (es ++ ts) = us :: entries ts := by
  have hkept (parts : List (List Token)) :
      (us :: parts).filter (· ≠ []) = us :: parts.filter (· ≠ []) :=
    List.filter_cons_of_pos (decide_eq_true hne)
  rcases h with rfl | ⟨vs, rfl, hvs⟩
  · have hes : tighten (es ++ []) = us := by simpa [tighten] using htighten []
    unfold entries
    rw [hes, List.splitOn_eq_singleton hspace, hkept]
    rfl
  · rw [entries_space hvs]
    unfold entries
    rw [htighten, tighten_space hvs, List.splitOn_append_cons_self_of_not_mem hspace, hkept]

/-- The tokens of a text that starts with an entry or is empty, and the declarations that are read
from them. -/
structure Reads (cs : List Char) (ts : List Token) (ds : List Decl) : Prop where
  tokens : Token.ofChars? cs = some ts
  first : ∀ x ∈ cs.head?, isBlank x = false
  opens : ts.head? ≠ some .closing
  read : (entries ts).mapM readEntry? = some ds

/-- One more entry is read in front of what is separated from it. -/
lemma EntryText.reads {entry b : List Char} (h : EntryText entry d)
    (hb : ∀ y ∈ b.head?, isBlank y = true) (htokens : Token.ofChars? b = some ts)
    (hts : Separated ts) (hds : (entries ts).mapM readEntry? = some ds) :
    ∃ es, Reads (entry ++ b) es (d :: ds) := by
  obtain ⟨us, htight, hread, hspace⟩ := h.read
  obtain ⟨t, es, hes, ht, htighten⟩ := htight.tokens
  have hne : us ≠ [] := by
    rintro rfl
    cases hread
  refine ⟨t :: es ++ ts, ?_, ?_, by simpa using ht, ?_⟩
  · exact Token.ofChars?_append (apart_of_isBlank htight.last hb) hes htokens
  · rw [List.head?_append_of_ne_nil entry htight.ne_nil]
    exact htight.first
  · rw [entries_append hne hspace htighten hts, List.mapM_cons, hread, hds]
    rfl

/-- Every text of the grammar has tokens, and they are cut into its entries. -/
lemma EntriesText.reads (h : EntriesText cs ds) : ∃ ts, Reads cs ts ds := by
  induction h with
  | @last entry after d hentry hafter =>
    have hseparated : Separated (Token.spaces after) := by
      unfold Token.spaces
      split
      · exact .inl rfl
      · exact .inr ⟨[], rfl, nofun⟩
    have hnone : (entries (Token.spaces after)).mapM readEntry? = some [] := by
      unfold Token.spaces
      split <;> rfl
    exact hentry.reads (fun y hy => hafter y (List.mem_of_head? hy))
      (Token.ofChars?_of_blanks hafter) hseparated hnone
  | @more entry blanks cs d ds hentry hblanks hne _ ih =>
    obtain ⟨ts, hts⟩ := ih
    have htokens := Token.ofChars?_append (hblanks.apart hts.first)
      (Token.ofChars?_of_blanks hblanks) hts.tokens
    rw [Token.spaces, if_neg hne] at htokens
    refine hentry.reads (fun y hy => ?_) htokens (.inr ⟨ts, rfl, hts.opens⟩) ?_
    · rw [List.head?_append_of_ne_nil _ hne] at hy
      exact hblanks y (List.mem_of_head? hy)
    · change (entries (.space :: ts)).mapM readEntry? = some ds
      rw [entries_space hts.opens]
      exact hts.read

end ShapeAlgebra.Decl
