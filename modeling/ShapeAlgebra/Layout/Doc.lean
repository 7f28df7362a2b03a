import ShapeAlgebra.Layout.Span

/-!
# Documents

A document is a text that leaves open where its lines end.  It may end a line at each of its
`line`s, and a `group` either ends none of its lines, and is flat then, or is broken: it is flat if
the rest of the line, as far as to the next place behind the group where a line ends, stays within
the width.  What is in a flat group is flat as well.  A `line` that does not end shows as a space,
and one that does is followed by as many spaces as its `nest`s ask for.
-/

namespace ShapeAlgebra.Layout

/-- A styled text with places where lines may end. -/
inductive Doc where
  | nil
  | text (span : Span)
  | line
  | append (first second : Doc)
  /-- The lines in `body` are indented by `indent` more. -/
  | nest (indent : Nat) (body : Doc)
  /-- The lines in `body` are flat if that fits. -/
  | group (body : Doc)
  deriving DecidableEq, Repr

namespace Doc

/-- Documents with `separator` between any two of them. -/
def separated (separator : Doc) : List Doc → Doc
  | [] => nil
  | [d] => d
  | d :: ds => append d (append separator (separated separator ds))

/-! ## Lines -/

/-- A line that does not end. -/
def space : Span := unstyled " "

/-- The end of a line, and the indentation of the next one. -/
def lineEnd (indent : Nat) : Span := unstyled (String.ofList ('\n' :: List.replicate indent ' '))

/-- The columns from the start of a document to the first end of a line, where `behind` is what
comes behind the document.  In a flat document, no line ends. -/
def reach (flat : Bool) : Doc → Nat → Nat
  | nil, behind => behind
  | text span, behind => Text.columns span.text + behind
  | line, behind => if flat then Text.columns space.text + behind else 0
  | append d e, behind => d.reach flat (e.reach flat behind)
  | nest _ d, behind => d.reach flat behind
  | group d, behind => d.reach flat behind

/-- The spans of a document that starts at `column`, and the column behind it.  Lines end with
`indent` more spaces, and `behind` columns come behind the document before a line ends there. -/
def lay (width : Nat) : (flat : Bool) → (indent behind column : Nat) → Doc → List Span × Nat
  | _, _, _, column, nil => ([], column)
  | _, _, _, column, text span => ([span], column + Text.columns span.text)
  | true, _, _, column, line => ([space], column + Text.columns space.text)
  | false, indent, _, _, line => ([lineEnd indent], indent)
  | flat, indent, behind, column, append d e =>
    let (first, middle) := d.lay width flat indent (e.reach flat behind) column
    let (second, last) := e.lay width flat indent behind middle
    (first ++ second, last)
  | flat, indent, behind, column, nest more d => d.lay width flat (indent + more) behind column
  | flat, indent, behind, column, group d =>
    d.lay width (flat || column + d.reach true behind ≤ width) indent behind column

/-- Of two documents the second starts where the first ends, and the first is told how far the
second reaches. -/
theorem lay_append (width : Nat) (flat : Bool) (indent behind column : Nat) (d e : Doc) :
    (append d e).lay width flat indent behind column =
      ((d.lay width flat indent (e.reach flat behind) column).1 ++
          (e.lay width flat indent behind
            (d.lay width flat indent (e.reach flat behind) column).2).1,
        (e.lay width flat indent behind
          (d.lay width flat indent (e.reach flat behind) column).2).2) := rfl

/-- A group is laid out flat if it is inside of one that is, or if what it holds reaches no further
than the width. -/
theorem lay_group (width : Nat) (flat : Bool) (indent behind column : Nat) (d : Doc) :
    (group d).lay width flat indent behind column =
      d.lay width (flat || column + d.reach true behind ≤ width) indent behind column := by
  cases flat <;> rfl

/-- The layout of a document within `width` columns. -/
def layout (width : Nat) (d : Doc) : List Span := (d.lay width false 0 0 0).1

end Doc

end ShapeAlgebra.Layout
