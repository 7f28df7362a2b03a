import Mathlib.Data.List.SplitBy
import ShapeAlgebra.Proofs.Text.Word
import ShapeAlgebra.Text.Lexeme

/-!
# The lexemes of a composed text

A text that is put together from parts has the lexemes of its parts, provided that no lexeme reaches
across a seam.  Two parts are apart when the characters on both sides of their seam do not belong
together, which is so as soon as just one of the two is a blank, or just one a word character.
-/

namespace ShapeAlgebra.Text

/-- A run of blanks, possibly empty. -/
def Blanks (cs : List Char) : Prop := ∀ c ∈ cs, isBlank c = true

/-- No lexeme reaches from the end of `a` into the start of `b`. -/
def Apart (a b : List Char) : Prop := ∀ x ∈ a.getLast?, ∀ y ∈ b.head?, joins x y = false

instance (cs : List Char) : Decidable (Blanks cs) :=
  decidable_of_iff (cs.all isBlank = true) List.all_eq_true

variable {a b cs : List Char}

/-- The empty text counts as blank. -/
lemma blanks_nil : Blanks [] := fun _ h => absurd h List.not_mem_nil

/-- Blanks behind blanks are blanks. -/
lemma Blanks.append (ha : Blanks a) (hb : Blanks b) : Blanks (a ++ b) := by
  intro c hc
  rcases List.mem_append.1 hc with h | h
  · exact ha c h
  · exact hb c h

/-! ## Seams -/

/-- The two characters of a seam that joins are of the same kind. -/
lemma eq_of_joins {x y : Char} (h : joins x y = true) :
    isBlank x = isBlank y ∧ isWordChar x = isWordChar y := by
  simp only [joins, Bool.or_eq_true, Bool.and_eq_true, beq_iff_eq] at h
  rcases h with (⟨hx, hy⟩ | ⟨hx, hy⟩) | ⟨rfl, rfl⟩
  · rw [hx, hy, isBlank_of_isWordChar hx, isBlank_of_isWordChar hy]
    exact ⟨rfl, rfl⟩
  · rw [hx, hy, isWordChar_of_isBlank hx, isWordChar_of_isBlank hy]
    exact ⟨rfl, rfl⟩
  · exact ⟨rfl, rfl⟩

/-- A lexeme ends between a blank and another character. -/
lemma joins_eq_false_of_isBlank_ne {x y : Char} (h : isBlank x ≠ isBlank y) :
    joins x y = false :=
  Bool.eq_false_iff.2 fun hjoins => h (eq_of_joins hjoins).1

/-- A lexeme ends between a word character and another one. -/
lemma joins_eq_false_of_isWordChar_ne {x y : Char} (h : isWordChar x ≠ isWordChar y) :
    joins x y = false :=
  Bool.eq_false_iff.2 fun hjoins => h (eq_of_joins hjoins).2

/-- Two parts are apart when just one of them has a blank at the seam. -/
lemma apart_of_isBlank {p : Bool} (ha : ∀ x ∈ a.getLast?, isBlank x = p)
    (hb : ∀ y ∈ b.head?, isBlank y = !p) : Apart a b := by
  intro x hx y hy
  apply joins_eq_false_of_isBlank_ne
  rw [ha x hx, hb y hy]
  cases p <;> decide

/-- Two parts are apart when just one of them has a word character at the seam. -/
lemma apart_of_isWordChar {p : Bool} (ha : ∀ x ∈ a.getLast?, isWordChar x = p)
    (hb : ∀ y ∈ b.head?, isWordChar y = !p) : Apart a b := by
  intro x hx y hy
  apply joins_eq_false_of_isWordChar_ne
  rw [ha x hx, hb y hy]
  cases p <;> decide

/-- Blanks do not join with what does not start with one. -/
lemma Blanks.apart (ha : Blanks a) (hb : ∀ y ∈ b.head?, isBlank y = false) : Apart a b :=
  apart_of_isBlank (fun x hx => ha x (List.mem_of_getLast? hx)) hb

/-! ## Lexemes -/

/-- The lexemes of two parts that are apart are those of the one and those of the other. -/
lemma lexemes_append (h : Apart a b) : lexemes (a ++ b) = lexemes a ++ lexemes b :=
  List.splitBy_append h

/-- A text in which every two neighbours belong together is a single lexeme. -/
lemma lexemes_eq_singleton (hne : cs ≠ []) (h : ∀ x ∈ cs, ∀ y ∈ cs, joins x y = true) :
    lexemes cs = [cs] := by
  refine List.splitBy_of_isChain hne (List.Pairwise.isChain ?_)
  exact List.pairwise_of_forall_mem_list h

/-- A run of word characters is a single lexeme. -/
lemma lexemes_of_isWordChar (hne : cs ≠ []) (h : ∀ c ∈ cs, isWordChar c = true) :
    lexemes cs = [cs] := by
  refine lexemes_eq_singleton hne fun x hx y hy => ?_
  simp [joins, h x hx, h y hy]

/-- A run of blanks is a single lexeme. -/
lemma lexemes_of_blanks (hne : cs ≠ []) (h : Blanks cs) : lexemes cs = [cs] := by
  refine lexemes_eq_singleton hne fun x hx y hy => ?_
  simp [joins, h x hx, h y hy]

/-- A lexeme that starts with a blank is a run of blanks. -/
lemma blanks_of_mem_lexemes {c : Char} {rest : List Char} (h : c :: rest ∈ lexemes cs)
    (hc : isBlank c = true) : Blanks (c :: rest) := by
  have hchain : (c :: rest).IsChain fun x y => joins x y = true := List.isChain_of_mem_splitBy h
  clear h
  induction rest generalizing c with
  | nil =>
    intro d hd
    rw [List.mem_singleton.1 hd]
    exact hc
  | cons c' rest ih =>
    obtain ⟨hjoins, htail⟩ := List.isChain_cons_cons.1 hchain
    have hc' : isBlank c' = true := by
      rw [← Bool.not_eq_false]
      intro hne
      rw [joins_eq_false_of_isBlank_ne (by rw [hc, hne]; decide)] at hjoins
      cases hjoins
    intro d hd
    rcases List.mem_cons.1 hd with rfl | hd
    · exact hc
    · exact ih hc' htail d hd

/-- A lexeme ends with its first character if nothing belongs together with that. -/
lemma eq_nil_of_mem_lexemes {c : Char} {rest : List Char} (h : c :: rest ∈ lexemes cs)
    (hc : ∀ y, joins c y = false) : rest = [] := by
  cases rest with
  | nil => rfl
  | cons c' rest =>
    have hchain := List.isChain_of_mem_splitBy h
    have hjoins : joins c c' = true := (List.isChain_cons_cons.1 hchain).1
    rw [hc c'] at hjoins
    cases hjoins

end ShapeAlgebra.Text
