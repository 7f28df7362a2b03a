import ShapeAlgebra.Proofs.Arith.Grammar

/-!
# Tokens and their spellings

The tokens of a text spell it.  Conversely a text is cut into the tokens that spell it, as long as
no two of them that touch would run together: two operands would, and so would two divisions.
-/

namespace ShapeAlgebra.Term

open Text

/-! ## Single tokens -/

namespace Token

/-- Whether a token is an identifier or a number. -/
def isOperand : Token → Bool
  | .ident _ | .int _ => true
  | _ => false

/-- Whether a token is written with slashes. -/
def isDivision : Token → Bool
  | .op .floorDiv | .op .trueDiv => true
  | _ => false

/-- Whether two tokens can be told apart without a blank between them. -/
def MayTouch (t u : Token) : Prop :=
  ¬ (t.isOperand = true ∧ u.isOperand = true) ∧ ¬ (t.isDivision = true ∧ u.isDivision = true)

/-- A word is an identifier or a numeral, whatever the punctuation is. -/
lemma ofLexeme?_of_isWordChar {cs : List Char} (h : ∀ c ∈ cs, isWordChar c = true) :
    ofLexeme? cs = ofWord? cs := by
  unfold ofLexeme?
  split
  case h_8 => rfl
  all_goals exact absurd (h _ List.mem_cons_self) (by decide)

/-- The token that a lexeme is read as spells it. -/
lemma spells_of_ofLexeme? {cs : List Char} {t : Token} (h : ofLexeme? cs = some t) :
    t.Spells cs := by
  unfold ofLexeme? at h
  split at h
  case h_1 => cases h; exact .op .add
  case h_2 => cases h; exact .op .sub
  case h_3 => cases h; exact .op .mul
  case h_4 => cases h; exact .op .floorDiv
  case h_5 => cases h; exact .op .trueDiv
  case h_6 => cases h; exact .opening
  case h_7 => cases h; exact .closing
  case h_8 =>
    unfold ofWord? at h
    split at h
    · rename_i hident
      obtain rfl := Option.some.inj h
      have hspelled : Spells (.ident (String.ofList cs)) (String.ofList cs).toList :=
        .ident (by rw [String.toList_ofList]; exact isIdentifier_iff.1 hident)
      rwa [String.toList_ofList] at hspelled
    · obtain ⟨value, hvalue, rfl⟩ := Option.map_eq_some_iff.1 h
      exact .int (numeral?_eq_some_iff.1 hvalue)

namespace Spells

variable {t u : Token} {word word' : List Char}

/-- Every token has a text. -/
lemma ne_nil (h : t.Spells word) : word ≠ [] := by
  cases h with
  | ident hident => exact hident.ne_nil
  | int hnumeral => exact hnumeral.ne_nil
  | op op => cases op <;> decide
  | opening => decide
  | closing => decide

/-- All characters of a token are of the kind that the token says. -/
lemma mem (h : t.Spells word) : ∀ c ∈ word,
    isWordChar c = t.isOperand ∧ (c == '/') = t.isDivision ∧ isBlank c = false := by
  have hslash {c : Char} (hc : isWordChar c = true) : (c == '/') = false := by
    rw [← Bool.not_eq_true, beq_iff_eq]
    rintro rfl
    exact absurd hc (by decide)
  cases h with
  | ident hident =>
    intro c hc
    have hword := hident.all_isWordChar c hc
    exact ⟨hword, hslash hword, isBlank_of_isWordChar hword⟩
  | int hnumeral =>
    intro c hc
    have hword := hnumeral.all_isWordChar c hc
    exact ⟨hword, hslash hword, isBlank_of_isWordChar hword⟩
  | op op => cases op <;> simp [Op.sign, isOperand, isDivision] <;> decide
  | opening =>
    rw [List.forall_mem_singleton]
    decide
  | closing =>
    rw [List.forall_mem_singleton]
    decide

/-- A spelled token is a single lexeme, and is read as that token. -/
lemma ofLexeme? (h : t.Spells word) : Token.ofLexeme? word = some t := by
  cases h with
  | ident hident =>
    rw [ofLexeme?_of_isWordChar hident.all_isWordChar, ofWord?,
      if_pos (isIdentifier_iff.2 hident), String.ofList_toList]
  | int hnumeral =>
    rw [ofLexeme?_of_isWordChar hnumeral.all_isWordChar, ofWord?,
      hnumeral.isIdentifier_eq_false, numeral?_eq_some_iff.2 hnumeral]
    rfl
  | op op => cases op <;> rfl
  | opening => rfl
  | closing => rfl

/-- The text of a token is a single lexeme. -/
lemma lexemes (h : t.Spells word) : Text.lexemes word = [word] := by
  cases h with
  | ident hident => exact lexemes_of_isWordChar hident.ne_nil hident.all_isWordChar
  | int hnumeral => exact lexemes_of_isWordChar hnumeral.ne_nil hnumeral.all_isWordChar
  | op op => cases op <;> rfl
  | opening => rfl
  | closing => rfl

/-- The text of a token is not blank, so that the lexer does not leave it out. -/
lemma isSpace (h : t.Spells word) : isSpace word = false := by
  obtain ⟨c, rest, rfl⟩ := List.exists_cons_of_ne_nil h.ne_nil
  rw [Term.isSpace, List.all_cons, (h.mem c List.mem_cons_self).2.2]
  rfl

/-- Tokens that may touch are apart when they do. -/
lemma apart (h : t.Spells word) (h' : u.Spells word') (htouch : t.MayTouch u) :
    Apart word word' := by
  intro x hx y hy
  obtain ⟨hxword, hxslash, hxblank⟩ := h.mem x (List.mem_of_getLast? hx)
  obtain ⟨hyword, hyslash, hyblank⟩ := h'.mem y (List.mem_of_head? hy)
  obtain ⟨hoperands, hdivisions⟩ := htouch
  rw [← Bool.and_eq_true, Bool.not_eq_true] at hoperands hdivisions
  unfold joins
  rw [hxword, hyword, hxslash, hyslash, hxblank, hoperands, hdivisions]
  rfl

end Spells

end Token

/-! ## Texts -/

/-- The tokens of two parts that are apart are those of the one and those of the other. -/
lemma Token.ofChars?_append {a b : List Char} (h : Apart a b) :
    Token.ofChars? (a ++ b) =
      (Token.ofChars? a).bind fun ts => (Token.ofChars? b).bind fun us => some (ts ++ us) := by
  unfold Token.ofChars?
  rw [lexemes_append h, List.filter_append, List.mapM_append]
  rfl

/-- Blanks have no tokens. -/
lemma Token.ofChars?_of_blanks {cs : List Char} (h : Blanks cs) : Token.ofChars? cs = some [] := by
  by_cases hne : cs = []
  · rw [hne]
    rfl
  · have hspace : isSpace cs = true := List.all_eq_true.2 h
    unfold Token.ofChars?
    rw [lexemes_of_blanks hne h, List.filter_cons, hspace]
    rfl

/-- The text of a token is read as that token. -/
lemma Token.Spells.ofChars? {t : Token} {word : List Char} (h : t.Spells word) :
    Token.ofChars? word = some [t] := by
  unfold Token.ofChars?
  rw [h.lexemes, List.filter_cons, h.isSpace, List.filter_nil, if_pos (by rfl), List.mapM_cons,
    h.ofLexeme?]
  rfl

/-- The tokens that a list of lexemes is read as spell the text of the lexemes. -/
lemma spelled_flatten {ls : List (List Char)} {ts : List Token}
    (h : (ls.filter fun l => !isSpace l).mapM Token.ofLexeme? = some ts) :
    Spelled ts ls.flatten := by
  induction ls generalizing ts with
  | nil =>
    obtain rfl := Option.some.inj h
    exact .nil blanks_nil
  | cons l ls ih =>
    rw [List.flatten_cons]
    by_cases hspace : isSpace l = true
    · rw [List.filter_cons, hspace] at h
      exact (ih h).blanks_append (List.all_eq_true.1 hspace)
    · rw [List.filter_cons, Bool.eq_false_iff.2 hspace, Bool.not_false, if_pos rfl,
        List.mapM_cons] at h
      obtain ⟨t, ht, hrest⟩ := Option.bind_eq_some_iff.1 h
      obtain ⟨us, hus, hcons⟩ := Option.bind_eq_some_iff.1 hrest
      obtain rfl := Option.some.inj hcons
      exact (Token.spells_of_ofLexeme? ht).spelled.append (ih hus)

/-- A text is spelled by its tokens. -/
lemma spelled_of_ofChars? {cs : List Char} {ts : List Token} (h : Token.ofChars? cs = some ts) :
    Spelled ts cs := by
  have hflatten : (lexemes cs).flatten = cs := List.flatten_splitBy joins cs
  rw [← hflatten]
  exact spelled_flatten h

/-- A spelled text starts with a blank or with the spelling of its first token. -/
lemma Spelled.apart {t : Token} {ts : List Token} {word cs : List Char} (h : Spelled ts cs)
    (hword : t.Spells word) (htouch : ∀ u ∈ ts.head?, t.MayTouch u) : Apart word cs := by
  have hlast : ∀ x ∈ word.getLast?, isBlank x = false :=
    fun x hx => (hword.mem x (List.mem_of_getLast? hx)).2.2
  cases h with
  | nil hblanks =>
    exact apart_of_isBlank hlast fun y hy => hblanks y (List.mem_of_head? hy)
  | @cons blanks word' rest u us hblanks hword' hrest =>
    cases blanks with
    | cons c blanks =>
      refine apart_of_isBlank hlast fun y hy => ?_
      obtain rfl := Option.some.inj hy
      exact hblanks c List.mem_cons_self
    | nil =>
      obtain ⟨c, word'', rfl⟩ := List.exists_cons_of_ne_nil hword'.ne_nil
      exact fun x hx y hy => hword.apart hword' (htouch u rfl) x hx y hy

/-- A text is cut into the tokens that spell it. -/
lemma Spelled.ofChars? {ts : List Token} {cs : List Char} (h : Spelled ts cs)
    (htouch : ts.IsChain Token.MayTouch) : Token.ofChars? cs = some ts := by
  induction h with
  | nil hblanks => exact Token.ofChars?_of_blanks hblanks
  | @cons blanks word cs t ts hblanks hword hrest ih =>
    obtain ⟨hfirst, htail⟩ := List.isChain_cons.1 htouch
    have hseam : Apart blanks (word ++ cs) := by
      obtain ⟨c, rest, rfl⟩ := List.exists_cons_of_ne_nil hword.ne_nil
      refine hblanks.apart fun y hy => ?_
      obtain rfl := Option.some.inj hy
      exact (hword.mem c List.mem_cons_self).2.2
    rw [Token.ofChars?_append hseam, Token.ofChars?_append (hrest.apart hword hfirst),
      Token.ofChars?_of_blanks hblanks, hword.ofChars?, ih htail]
    rfl

end ShapeAlgebra.Term
