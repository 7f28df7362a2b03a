import ShapeAlgebra.Proofs.Expr.ReadBack
import ShapeAlgebra.Proofs.Layout.Escape
import ShapeAlgebra.Proofs.Layout.Writing

/-!
# Layouts and texts

The document of an expression is built by a recursion of its own, and so is its text, but they agree
in what they write, so that the layout of an expression is its text within every width.  The layout
of a shape is its text if that fits the width, and otherwise its text with the ends of lines behind
the commas between axes.  Widths are counted in columns, and the text of a shape over identifiers
takes a column for each of its characters.

All this is so for every expression and every shape that the build has the depth for, and in a build
that wraps around it has the depth for all of them.  In a build that traps there is no layout of
what is nested more deeply than a byte can count.
-/

namespace ShapeAlgebra

namespace Layout

open Doc (space lineEnd)

/-- The document `d` writes the text `s`, and no line ends in it. -/
structure Writes (d : Doc) (s : String) : Prop where
  lineless : d.Lineless
  plain_eq : plain (d.spans space) = s

/-- A text writes itself. -/
lemma writes_text (sp : Span) : Writes (.text sp) sp.text where
  lineless := trivial
  plain_eq := by rw [Doc.spans, plain_cons, plain_nil, String.append_empty]

/-- Two documents, one behind the other, write their texts so. -/
lemma Writes.append {d d' : Doc} {s t : String} (h : Writes d s) (h' : Writes d' t) :
    Writes (.append d d') (s ++ t) where
  lineless := ⟨h.lineless, h'.lineless⟩
  plain_eq := by rw [Doc.spans, plain_append, h.plain_eq, h'.plain_eq]

/-- What documents write is kept where they are put together. -/
lemma composes_writes : Composes fun _ => Writes where
  nil := ⟨trivial, rfl⟩
  text _ _ := writes_text _
  append := .append
  group h := ⟨h.lineless, h.plain_eq⟩
  enclosed {n _ _} h := by
    have hall := (writes_text (styled (.paren (UInt8.ofNat n)) "(")).append
      (h.append (writes_text (styled (.paren (UInt8.ofNat n)) ")")))
    rw [← String.append_assoc] at hall
    exact hall

/-- Axes without lines are laid out loosely, with lines between them only. -/
lemma loose_axesDoc {axes : List Doc} (h : ∀ d ∈ axes, d.Lineless) : (axesDoc axes).Loose :=
  Doc.loose_separated ⟨trivial, trivial⟩ fun d hd => (h d hd).loose

/-- What stands behind the axes is a comma or nothing, and the parenthesis. -/
lemma writes_closingDoc (axes : List Doc) :
    Writes (closingDoc axes) ((if axes.length = 1 then "," else "") ++ ")") := by
  refine Writes.append ?_ (writes_text (styled (.paren 0) ")"))
  split
  · exact writes_text (styled .punct ",")
  · exact ⟨trivial, rfl⟩

/-- A shape is laid out on one line if it fits, and otherwise with a line for every axis. -/
lemma layout_framed {axes : List Doc} (h : ∀ d ∈ axes, d.Lineless) (width : Nat) :
    (framed axes).layout width = (framed axes).spans
      (if columns ((framed axes).spans space) ≤ width then space else lineEnd 1) := by
  have hopening : (word (.paren 0) "(").Lineless := trivial
  exact Doc.layout_append_group hopening (loose_axesDoc h) (writes_closingDoc axes).lineless width 1

/-- A character of ASCII from the space on. -/
def Visible (c : Char) : Prop := 32 ≤ c.toNat ∧ c.toNat < 128

instance (c : Char) : Decidable (Visible c) := inferInstanceAs (Decidable (_ ∧ _))

variable {p q : Char → Prop} {s t gap separator : String} {ss : List String} {e : Expr}
  {spans : List Span}

/-- A text consists of certain characters if and only if both its parts do. -/
lemma consists_append_iff : Consists p (s ++ t) ↔ Consists p s ∧ Consists p t := by
  unfold Consists
  rw [String.toList_append, List.forall_mem_append]

/-- Two texts of certain characters make one of such characters. -/
lemma Consists.append (hs : Consists p s) (ht : Consists p t) : Consists p (s ++ t) :=
  consists_append_iff.2 ⟨hs, ht⟩

/-- The condition on the characters of a text may be weakened. -/
lemma Consists.imp (h : Consists p s) (hpq : ∀ c, p c → q c) : Consists q s :=
  fun c hc => hpq c (h c hc)

/-- Texts of certain characters, with a separator of such characters between them, make one of such
characters. -/
lemma Consists.intercalate (hseparator : Consists p separator) (h : ∀ s ∈ ss, Consists p s) :
    Consists p (separator.intercalate ss) := by
  induction ss with
  | nil => exact fun c hc => absurd hc List.not_mem_nil
  | cons s ss ih =>
    obtain ⟨hs, hss⟩ := List.forall_mem_cons.1 h
    obtain _ | ⟨t, ss⟩ := ss
    · rwa [String.intercalate_singleton]
    · rw [String.intercalate_cons_cons]
      exact (hs.append hseparator).append (ih hss)

/-- What a plain text consists of, its spans consist of. -/
lemma Consists.of_plain (h : Consists p (plain spans)) : ∀ sp ∈ spans, Consists p sp.text := by
  induction spans with
  | nil => exact fun _ hsp => absurd hsp List.not_mem_nil
  | cons sp spans ih =>
    rw [plain_cons, consists_append_iff] at h
    exact List.forall_mem_cons.2 ⟨h.1, ih h.2⟩

/-- Parentheses around a visible text are visible. -/
lemma Consists.parenthesised (h : Consists Visible s) :
    Consists Visible (Expr.parenthesised s) :=
  (Consists.append (by decide) h).append (by decide)

/-- A text in visible ASCII takes a column for each of its characters. -/
lemma columns_eq_length (h : Consists Visible (plain spans)) :
    columns spans = (plain spans).length := by
  refine columns_eq_length_plain fun sp hsp => List.all_eq_true.2 fun c hc => ?_
  exact decide_eq_true (h.of_plain sp hsp c hc).2

/-! ## Layouts -/

/-- A document without lines is laid out as its text, and shown as it. -/
lemma Writes.layout_eq {d : Doc} (h : Writes d s) (width : Nat) :
    plain (d.layout width) = s ∧ Escaped (ansi (d.layout width)).toList s.toList ∧
      (escapeChar ∉ s.toList → withoutEscapes (ansi (d.layout width)) = s) := by
  have hplain : plain (d.layout width) = s := by rw [h.lineless.layout_eq, h.plain_eq]
  have hescaped := escaped_ansi (d.layout width)
  rw [hplain] at hescaped
  refine ⟨hplain, hescaped, fun hno => ?_⟩
  rw [← hplain] at hno
  rw [withoutEscapes_ansi hno, hplain]

end Layout

end ShapeAlgebra
