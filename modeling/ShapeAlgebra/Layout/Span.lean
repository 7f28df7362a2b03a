import ShapeAlgebra.Text.Columns

/-!
# Styled text

A styled text is a sequence of spans, each with the role it plays.  It can be written out plainly,
or for a terminal that understands the escape sequences for colours; the two differ in nothing
but the escape sequences.
-/

namespace ShapeAlgebra.Layout

/-! ## Roles -/

/-- The role of a piece of text. -/
inductive Style where
  /-- Commas and colons. -/
  | punct
  /-- A parenthesis inside `depth` others.  The depth is a byte, so it is up to the build what is
  made of the parentheses inside of 256 others. -/
  | paren (depth : UInt8)
  | operator
  | keyword
  /-- Names and symbols of dimensions. -/
  | ident
  /-- Numbers. -/
  | size
  deriving DecidableEq, Repr

/-- The colours of the terminal that are in use. -/
inductive Colour where
  | green
  | yellow
  | blue
  | magenta
  | cyan
  deriving DecidableEq, Repr

/-- How a role looks on a terminal. -/
structure Look where
  bold : Bool := false
  dimmed : Bool := false
  colour : Option Colour := none
  deriving DecidableEq, Repr

/-- The colour of a parenthesis: four colours take turns as the depth grows. -/
def parenColour (depth : UInt8) : Colour :=
  match depth.toNat % 4 with
  | 0 => .blue
  | 1 => .green
  | 2 => .yellow
  | _ => .magenta

/-- The look of a role. -/
def Style.look : Style → Look
  | .punct => { dimmed := true }
  | .paren depth => { dimmed := true, colour := some (parenColour depth) }
  | .operator => { bold := true, colour := some .yellow }
  | .keyword => { bold := true, colour := some .cyan }
  | .ident => { bold := true, colour := some .green }
  | .size => { colour := some .magenta }

/-! ## Spans -/

/-- A piece of text, with its role if it has one. -/
structure Span where
  style : Option Style
  text : String
  deriving DecidableEq, Repr

/-- The text `s` in the role `style`. -/
def styled (style : Style) (s : String) : Span := ⟨some style, s⟩

/-- The text `s` in no role. -/
def unstyled (s : String) : Span := ⟨none, s⟩

/-! ## Writing out -/

/-- The text of spans without their roles. -/
def plain (spans : List Span) : String := String.join (spans.map Span.text)

/-- The number of columns that spans take: a span is measured without regard to those around it. -/
def columns : List Span → Nat
  | [] => 0
  | s :: spans => Text.columns s.text + columns spans

/-- The escape sequence that sets the attribute `code` of a terminal. -/
def escape (code : String) : String := "\x1b[" ++ code ++ "m"

/-- The code of a colour in the foreground. -/
def Colour.code : Colour → String
  | .green => "32"
  | .yellow => "33"
  | .blue => "34"
  | .magenta => "35"
  | .cyan => "36"

/-- The escape sequences that set a look, after everything set before has been cleared. -/
def Look.sequence (l : Look) : String :=
  escape "0" ++ (if l.bold then escape "1" else "") ++ (if l.dimmed then escape "2" else "") ++
    (match l.colour with
      | some c => escape c.code
      | none => "")

/-- The text of a span between the escape sequences of its role. -/
def Span.ansi (s : Span) : String :=
  match s.style with
  | some style => style.look.sequence ++ s.text ++ escape "0"
  | none => s.text

/-- The text of spans for a terminal. -/
def ansi (spans : List Span) : String := String.join (spans.map Span.ansi)

@[simp]
theorem plain_nil : plain [] = "" := rfl

@[simp]
theorem plain_cons (s : Span) (spans : List Span) :
    plain (s :: spans) = s.text ++ plain spans := by
  simp [plain]

@[simp]
theorem plain_append (l m : List Span) : plain (l ++ m) = plain l ++ plain m := by
  simp [plain]

@[simp]
theorem columns_nil : columns [] = 0 := rfl

@[simp]
theorem columns_cons (s : Span) (spans : List Span) :
    columns (s :: spans) = Text.columns s.text + columns spans := rfl

@[simp]
theorem columns_append (l m : List Span) : columns (l ++ m) = columns l + columns m := by
  induction l with
  | nil => simp
  | cons s l ih => simp [ih, Nat.add_assoc]

/-- Spans in ASCII take as many columns as they have characters. -/
theorem columns_eq_length_plain {spans : List Span}
    (h : ∀ s ∈ spans, s.text.toList.all Text.isAscii = true) :
    columns spans = (plain spans).length := by
  induction spans with
  | nil => rfl
  | cons s spans ih =>
    rw [List.forall_mem_cons] at h
    rw [columns_cons, plain_cons, String.length_append, Text.columns_eq_length h.1, ih h.2]

@[simp]
theorem ansi_nil : ansi [] = "" := rfl

@[simp]
theorem ansi_cons (s : Span) (spans : List Span) : ansi (s :: spans) = s.ansi ++ ansi spans := by
  simp [ansi]

@[simp]
theorem ansi_append (l m : List Span) : ansi (l ++ m) = ansi l ++ ansi m := by
  simp [ansi]

end ShapeAlgebra.Layout
