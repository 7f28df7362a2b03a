import Mathlib.Tactic.Lemma
import ShapeAlgebra.Layout.Doc

/-!
# Where the lines of a document end

The spans of a document are known up to its lines, whose spans depend on the width.  There are two
extremes.  In a flat document, and in one without lines, nothing depends on the width.  In a broken
document that has no lines inside of groups, all lines end in the same way.  A group of the second
kind between documents of the first is laid out in one of two ways, and all the columns of the
document decide between them, those behind the group included.
-/

namespace ShapeAlgebra.Layout.Doc

variable {width indent behind column : Nat} {flat : Bool} {d separator : Doc} {ds : List Doc}

/-- The spans of a document, where every line shows as `gap`. -/
def spans (gap : Span) : Doc → List Span
  | nil => []
  | text span => [span]
  | line => [gap]
  | append d e => d.spans gap ++ e.spans gap
  | nest _ d => d.spans gap
  | group d => d.spans gap

/-- There are no lines in the document. -/
def Lineless : Doc → Prop
  | nil | text _ => True
  | line => False
  | append d e => d.Lineless ∧ e.Lineless
  | nest _ d => d.Lineless
  | group d => d.Lineless

/-- There are no lines in the groups of the document, and none that are indented. -/
def Loose : Doc → Prop
  | nil | text _ | line => True
  | append d e => d.Loose ∧ e.Loose
  | nest _ d => d.Lineless
  | group d => d.Lineless

/-! ## Laws of the conditions -/

/-- A document without lines is loose. -/
lemma Lineless.loose (h : d.Lineless) : d.Loose := by
  induction d with
  | nil => trivial
  | text span => trivial
  | line => trivial
  | append d e ihd ihe => exact ⟨ihd h.1, ihe h.2⟩
  | nest indent d _ => exact h
  | group d _ => exact h

/-- It does not matter to a document without lines what stands for a line. -/
lemma Lineless.spans_eq (h : d.Lineless) (gap gap' : Span) : d.spans gap = d.spans gap' := by
  induction d with
  | nil => rfl
  | text span => rfl
  | line => exact absurd h not_false
  | append d e ihd ihe => rw [spans, spans, ihd h.1, ihe h.2]
  | nest indent d ih => exact ih h
  | group d ih => exact ih h

/-- What holds of some documents, and is kept where two are put together, holds of the documents
with separators between them. -/
lemma separated_induction {P : Doc → Prop} (hnil : P .nil)
    (happend : ∀ {d e : Doc}, P d → P e → P (.append d e)) (hseparator : P separator)
    (h : ∀ d ∈ ds, P d) : P (separated separator ds) := by
  induction ds with
  | nil => exact hnil
  | cons d ds ih =>
    obtain ⟨hd, hds⟩ := List.forall_mem_cons.1 h
    cases ds with
    | nil => exact hd
    | cons d' ds => exact happend hd (happend hseparator (ih hds))

/-- Documents with separators between them are loose if all of them are. -/
lemma loose_separated (hseparator : separator.Loose) (h : ∀ d ∈ ds, d.Loose) :
    (separated separator ds).Loose :=
  separated_induction trivial And.intro hseparator h

/-- Where no line ends, a document reaches to its end. -/
lemma reach_eq (h : flat = true ∨ d.Lineless) :
    d.reach flat behind = columns (d.spans space) + behind := by
  induction d generalizing behind with
  | nil => exact (Nat.zero_add behind).symm
  | text span => rfl
  | line =>
    obtain rfl | hline := h
    · rfl
    · exact absurd hline not_false
  | append d e ihd ihe =>
    have hd := h.imp_right And.left
    have he := h.imp_right And.right
    rw [reach, spans, columns_append, ihd hd, ihe he, Nat.add_assoc]
  | nest indent d ih => exact ih h
  | group d ih => exact ih h

/-- Where no line ends, all lines show as spaces. -/
lemma lay_eq (h : flat = true ∨ d.Lineless) :
    d.lay width flat indent behind column = (d.spans space, column + columns (d.spans space)) := by
  induction d generalizing flat indent behind column with
  | nil => rfl
  | text span => rfl
  | line =>
    obtain rfl | hline := h
    · rfl
    · exact absurd hline not_false
  | append d e ihd ihe =>
    have hd := h.imp_right And.left
    have he := h.imp_right And.right
    rw [lay_append, ihd hd, ihe he, spans, columns_append, Nat.add_assoc]
  | nest more d ih => exact ih h
  | group d ih => exact ih (h.imp_left fun hflat => by rw [hflat, Bool.true_or])

/-- In a loose document that is broken, all lines end. -/
lemma Loose.lay_eq (h : d.Loose) :
    (d.lay width false indent behind column).1 = d.spans (lineEnd indent) := by
  induction d generalizing behind column with
  | nil => rfl
  | text span => rfl
  | line => rfl
  | append d e ihd ihe => rw [lay_append, ihd h.1, ihe h.2, spans]
  | nest more d _ =>
    have hd : d.Lineless := h
    rw [lay, Doc.lay_eq (.inr hd), spans, hd.spans_eq]
  | group d _ =>
    have hd : d.Lineless := h
    rw [lay, Doc.lay_eq (.inr hd), spans, hd.spans_eq]

/-- A document without lines is laid out in the same way within all widths. -/
lemma Lineless.layout_eq (h : d.Lineless) (width : Nat) : d.layout width = d.spans space := by
  rw [layout, lay_eq (.inr h)]

/-- A group between documents without lines is flat exactly if all three of them fit the width. -/
lemma layout_append_group {before after : Doc} (hbefore : before.Lineless) (hd : d.Loose)
    (hafter : after.Lineless) (width indent : Nat) :
    (append before (append (group (nest indent d)) after)).layout width =
      (append before (append (group (nest indent d)) after)).spans
        (if columns ((append before (append (group (nest indent d)) after)).spans space) ≤ width
          then space else lineEnd indent) := by
  -- the group is measured from the column behind `before` to the end of `after`
  have hreach : columns (before.spans space) + d.reach true (after.reach false 0) =
      columns ((append before (append (group (nest indent d)) after)).spans space) := by
    rw [reach_eq (.inl rfl), reach_eq (.inr hafter)]
    simp only [spans, columns_append, Nat.add_zero]
  rw [layout, lay_append, lay_eq (.inr hbefore), lay_append, lay_eq (.inr hafter), lay_group, lay,
    Nat.zero_add, reach, hreach, Bool.false_or, Nat.zero_add]
  by_cases hfits : columns
    ((append before (append (group (nest indent d)) after)).spans space) ≤ width
  · rw [if_pos hfits, decide_eq_true hfits, Doc.lay_eq (.inl rfl)]
    rfl
  · rw [if_neg hfits, decide_eq_false hfits, hd.lay_eq, hbefore.spans_eq space (lineEnd indent),
      hafter.spans_eq space (lineEnd indent)]
    rfl

end ShapeAlgebra.Layout.Doc
