import ShapeAlgebra.Text.Blank

/-!
# Cutting a spec into slots

A spec without its blanks is cut twice: at its arrows into sides, and each side into the texts of
its slots.  A side with a comma is cut at the commas that stand outside parentheses.  A side
without a comma but with an operator or a parenthesis is a single slot, and any other side has
one slot for each character.
-/

namespace ShapeAlgebra.Spec

/-! ## Arrows -/

/-- `cs` cut at every arrow, from the left. -/
def cutArrows : List Char → List (List Char)
  | [] => [[]]
  | '-' :: '>' :: cs => [] :: cutArrows cs
  | c :: cs => (cutArrows cs).modifyHead (c :: ·)

/-- What stands before and after the first arrow of `cs`, if there is one. -/
def cutFirstArrow? : List Char → Option (List Char × List Char)
  | [] => none
  | '-' :: '>' :: cs => some ([], cs)
  | c :: cs => (cutFirstArrow? cs).map fun (before, after) => (c :: before, after)

/-! ## Commas -/

/-- The number of open parentheses behind the character `c`, which stands inside `depth` of
them.  A parenthesis that closes nothing is passed over. -/
def depthAfter (depth : Nat) (c : Char) : Nat :=
  if c = '(' then depth + 1 else if c = ')' then depth - 1 else depth

/-- `cs`, which stands inside `depth` parentheses, cut at the commas outside all of them. -/
def cutCommas (depth : Nat) : List Char → List (List Char)
  | [] => [[]]
  | c :: cs =>
    if c = ',' ∧ depth = 0 then [] :: cutCommas 0 cs
    else (cutCommas (depthAfter depth c) cs).modifyHead (c :: ·)

/-! ## Nothing is lost -/

/-- Cutting at arrows gives one piece at least. -/
theorem cutArrows_ne_nil (cs : List Char) : cutArrows cs ≠ [] := by
  fun_induction cutArrows cs <;> simp_all

/-- Cutting at commas gives one piece at least. -/
theorem cutCommas_ne_nil (depth : Nat) (cs : List Char) : cutCommas depth cs ≠ [] := by
  fun_induction cutCommas depth cs <;> simp_all

/-- A character in front of the first of several parts stands in front of all of them joined. -/
theorem intercalate_modifyHead_cons {separator : List Char} {c : Char} {parts : List (List Char)}
    (h : parts ≠ []) :
    separator.intercalate (parts.modifyHead (c :: ·)) = c :: separator.intercalate parts := by
  cases parts with
  | nil => exact absurd rfl h
  | cons part parts => cases parts <;> simp [List.intercalate, List.intersperse]

/-- The parts of a text cut at its arrows, joined by arrows, are the text. -/
theorem intercalate_cutArrows (cs : List Char) :
    ['-', '>'].intercalate (cutArrows cs) = cs := by
  fun_induction cutArrows cs with
  | case1 => rfl
  | case2 cs ih => rw [List.intercalate_cons_of_ne_nil (cutArrows_ne_nil cs), ih]; rfl
  | case3 c cs _ ih => rw [intercalate_modifyHead_cons (cutArrows_ne_nil cs), ih]

/-- The parts of a text cut at its commas, joined by commas, are the text. -/
theorem intercalate_cutCommas (depth : Nat) (cs : List Char) :
    [','].intercalate (cutCommas depth cs) = cs := by
  fun_induction cutCommas depth cs with
  | case1 => rfl
  | case2 _ c cs comma ih =>
    rw [List.intercalate_cons_of_ne_nil (cutCommas_ne_nil 0 cs), ih, comma.1]
    rfl
  | case3 _ c cs _ ih => rw [intercalate_modifyHead_cons (cutCommas_ne_nil _ cs), ih]

/-! ## Sides -/

/-- The ways in which a side can be written. -/
inductive Form where
  /-- One character for each slot. -/
  | compact
  /-- Slots separated by commas, or a single slot. -/
  | explicit
  deriving DecidableEq, Repr

/-- Whether `c` makes a side without a comma a single slot. -/
def isArithmetic (c : Char) : Bool := ['+', '-', '*', '/', '(', ')'].contains c

/-- The form of a side. -/
def formOf (side : List Char) : Form :=
  if side.any fun c => c == ',' || isArithmetic c then .explicit else .compact

/-- The texts of the slots of a side. -/
def cutSide (side : List Char) : List (List Char) :=
  if side.contains ',' then cutCommas 0 side
  else if side.any isArithmetic then [side]
  else side.map fun c => [c]

end ShapeAlgebra.Spec
