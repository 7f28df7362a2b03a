import Mathlib.Tactic.Lemma
import ShapeAlgebra.Layout.Span

/-!
# Removing escape sequences

A terminal takes an escape sequence for a command and shows the rest.  An escape sequence starts
with the escape character.  If a bracket comes next, it goes on to the first character from `@` to
`~`, and otherwise it ends with the next character.  What is written for a terminal is the plain
text with escape sequences put in, so that the plain text is left when all escape sequences are
taken out, unless it has escape characters of its own.
-/

namespace ShapeAlgebra.Layout

/-- What the next character of a text belongs to. -/
inductive EscapeState where
  | shown
  /-- It comes right behind the escape character. -/
  | escaped
  /-- It belongs to an escape sequence with a bracket. -/
  | command
  deriving DecidableEq, Repr

/-- The first character of escape sequences. -/
def escapeChar : Char := '\x1b'

/-- What is left of `cs` without escape sequences. -/
def withoutEscapesFrom : EscapeState → List Char → List Char
  | _, [] => []
  | .shown, c :: cs =>
    if c = escapeChar then withoutEscapesFrom .escaped cs else c :: withoutEscapesFrom .shown cs
  | .escaped, c :: cs => withoutEscapesFrom (if c = '[' then .command else .shown) cs
  | .command, c :: cs =>
    withoutEscapesFrom (if '@' ≤ c ∧ c ≤ '~' then .shown else .command) cs

/-- What is left of a text without escape sequences. -/
def withoutEscapes (s : String) : String := String.ofList (withoutEscapesFrom .shown s.toList)

/-- `Escaped out text` says that `out` is `text` with escape sequences put in. -/
inductive Escaped : List Char → List Char → Prop where
  | nil : Escaped [] []
  | char {out text : List Char} (c : Char) : Escaped out text → Escaped (c :: out) (c :: text)
  | sequence {out text : List Char} {code : String} : code.toList.all Char.isDigit = true →
    Escaped out text → Escaped ((escape code).toList ++ out) text

variable {out out' text text' : List Char} {code : String}

/-! ## Putting in -/

/-- No escape sequence has to be put in. -/
lemma Escaped.refl (text : List Char) : Escaped text text := by
  induction text with
  | nil => exact .nil
  | cons c text ih => exact .char c ih

/-- Escape sequences may be put in part by part. -/
lemma Escaped.append (h : Escaped out text) (h' : Escaped out' text') :
    Escaped (out ++ out') (text ++ text') := by
  induction h with
  | nil => exact h'
  | char c _ ih => exact .char c ih
  | sequence hcode _ ih =>
    rw [List.append_assoc]
    exact .sequence hcode ih

/-- An escape sequence by itself shows nothing. -/
lemma escaped_escape (h : code.toList.all Char.isDigit = true) :
    Escaped (escape code).toList [] := by
  have hsequence := Escaped.sequence h .nil
  rwa [List.append_nil] at hsequence

/-- A look is set by escape sequences. -/
lemma escaped_sequence (l : Look) : Escaped l.sequence.toList [] := by
  have hflag (b : Bool) {code : String} (h : code.toList.all Char.isDigit = true) :
      Escaped (if b then escape code else "").toList [] := by
    split
    · exact escaped_escape h
    · exact .nil
  have hreset : Escaped (escape "0").toList [] := escaped_escape (by decide)
  rw [Look.sequence, String.toList_append, String.toList_append, String.toList_append]
  refine ((hreset.append (hflag l.bold (by decide))).append (hflag l.dimmed (by decide))).append ?_
  split
  · rename_i c _
    exact escaped_escape (by cases c <;> decide)
  · exact .nil

/-- The text of a span for a terminal is its text with escape sequences around it. -/
lemma Span.escaped_ansi (sp : Span) : Escaped sp.ansi.toList sp.text.toList := by
  unfold Span.ansi
  split
  · rename_i style _
    have hreset : Escaped (escape "0").toList [] := escaped_escape (by decide)
    have hspan := ((escaped_sequence style.look).append (.refl sp.text.toList)).append hreset
    rwa [List.nil_append, List.append_nil, ← String.toList_append, ← String.toList_append] at hspan
  · exact .refl _

/-- The text for a terminal is the plain text with escape sequences put in. -/
lemma escaped_ansi (spans : List Span) : Escaped (ansi spans).toList (plain spans).toList := by
  induction spans with
  | nil => exact .nil
  | cons sp spans ih =>
    rw [ansi_cons, plain_cons, String.toList_append, String.toList_append]
    exact sp.escaped_ansi.append ih

/-! ## Taking out -/

/-- Digits and a letter behind a bracket end an escape sequence. -/
lemma withoutEscapesFrom_command (h : ∀ c ∈ text, c.isDigit = true) (out : List Char) :
    withoutEscapesFrom .command (text ++ ('m' :: out)) = withoutEscapesFrom .shown out := by
  induction text with
  | nil => rfl
  | cons c text ih =>
    obtain ⟨hc, htext⟩ := List.forall_mem_cons.1 h
    have hgoes : ¬('@' ≤ c ∧ c ≤ '~') := by
      have hnine : c.toNat ≤ 57 := (Char.isDigit_iff_toNat.1 hc).2
      rintro ⟨hle, -⟩
      have hat : 64 ≤ c.toNat := hle
      omega
    rw [List.cons_append, withoutEscapesFrom, if_neg hgoes, ih htext]

/-- What was put in is taken out again. -/
lemma Escaped.withoutEscapesFrom_eq (h : Escaped out text) (htext : escapeChar ∉ text) :
    withoutEscapesFrom .shown out = text := by
  induction h with
  | nil => rfl
  | char c _ ih =>
    obtain ⟨hc, hrest⟩ := not_or.1 (mt List.mem_cons.2 htext)
    rw [withoutEscapesFrom, if_neg (Ne.symm hc), ih hrest]
  | sequence hcode _ ih =>
    rw [escape, String.toList_append, String.toList_append, List.append_assoc, List.append_assoc]
    exact (withoutEscapesFrom_command (List.all_eq_true.1 hcode) _).trans (ih htext)

/-- What is left of a text for a terminal is the plain text, if that has no escape characters. -/
lemma withoutEscapes_ansi {spans : List Span} (h : escapeChar ∉ (plain spans).toList) :
    withoutEscapes (ansi spans) = plain spans := by
  rw [withoutEscapes, (escaped_ansi spans).withoutEscapesFrom_eq h, String.ofList_toList]

end ShapeAlgebra.Layout
