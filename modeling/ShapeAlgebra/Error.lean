import ShapeAlgebra.Text.Bracketed

/-!
# Errors

An error of this library is a cause together with the spec it was found in.  The spec is the
text the caller wrote, so that the mistake can be located; `inSpec` restates an error of a part
for the whole.  Causes carry what their messages show, and `message` words them.
-/

namespace ShapeAlgebra

/-! ## Causes -/

/-- What makes a text unreadable, or readable but out of place. -/
inductive Unreadable where
  /-- The text is not in the grammar, or a number in it is out of range. -/
  | malformed
  /-- One declaration was expected, and `found` were given. -/
  | declarationCount (found : Nat)
  /-- A placeholder stands in the annotation of a shape. -/
  | placeholder (slot : String)
  /-- A transform was expected, and there is no arrow. -/
  | noArrow
  /-- A shape was expected, and there is an arrow. -/
  | arrow
  /-- An expansion has no arrow. -/
  | noExpansionArrow (pair : String)
  /-- An axis is left to be inferred where every size is known. -/
  | inferredSource
  deriving DecidableEq, Repr

/-- How two shapes, or two counts, disagree. -/
inductive Mismatch where
  /-- The element count `total` is no multiple of the count `known` of the sized axes among
  `sizes`. -/
  | elements (total known : Size) (sizes : List Size)
  /-- The two sides have different numbers of slots. -/
  | slotCount (source : Nat) (sourceText : String) (target : Nat) (targetText : String)
  /-- A concrete shape does not fit its annotation. -/
  | shape (expected : String) (concrete : List Size)
  deriving DecidableEq, Repr

/-- Why an operand cannot be used. -/
inductive BadOperand where
  /-- The divisor is the literal zero. -/
  | zeroLiteral
  /-- The divisor evaluates to zero. -/
  | zeroDivisor (divisor : String)
  /-- A result does not fit in a size. -/
  | overflow (lhs : Size) (operator : String) (rhs : Size)
  /-- A division was written that does not round. -/
  | trueDivision (lhs rhs : String)
  /-- An axis would get a negative size. -/
  | negativeSize (slot : String) (size : Size)
  /-- The number of elements does not fit in a size. -/
  | elementCount
  deriving DecidableEq, Repr

/-- Why a chain of stages and its tags do not go together. -/
inductive BadChain where
  /-- A tag that stands for no kind of step. -/
  | unknownTag (tag : Char) (tags : String)
  /-- The number of tags is not one less than the number of stages. -/
  | tagCount (stages found : Nat) (tags : String)
  deriving DecidableEq, Repr

/-- The causes of errors. -/
inductive ShapeError.Cause where
  /-- A symbol is declared a second time under the strict policy. -/
  | alreadyDeclared (symbol : String)
  /-- A symbol is used without a declaration. -/
  | notDeclared (symbol : String)
  | unreadable (reason : Unreadable)
  | mismatch (reason : Mismatch)
  /-- A number of axes differs from the one it is resolved against. -/
  | axisCount (expected found : Nat)
  /-- An axis of the target has no counterpart in the source. -/
  | unmatched (slot : String)
  /-- The two sides have different numbers of anonymous axes. -/
  | placeholders (source target : Nat)
  /-- An axis would grow by a factor that is not a whole number. -/
  | wholeFactor (slot : String) (before after : Size)
  /-- A size is needed that a dimension does not have. -/
  | unsized (symbol : String)
  | operand (reason : BadOperand)
  | chain (reason : BadChain)
  /-- A reduction keeps an axis that the source does not have in this order. -/
  | reduction (slot : String)
  deriving DecidableEq, Repr

/-- An error: its cause, and the spec in which it was found. -/
structure ShapeError where
  spec : String
  cause : ShapeError.Cause
  deriving DecidableEq, Repr

/-! ## Kinds -/

/-- The kinds of errors, causes without what they carry. -/
inductive ShapeError.Kind where
  | alreadyDeclared
  | notDeclared
  | unreadable
  | mismatch
  | axisCount
  | unmatched
  | placeholders
  | wholeFactor
  | unsized
  | operand
  | chain
  | reduction
  deriving DecidableEq, Repr

namespace ShapeError

/-- The kind of a cause. -/
def Cause.kind : Cause → Kind
  | .alreadyDeclared _ => .alreadyDeclared
  | .notDeclared _ => .notDeclared
  | .unreadable _ => .unreadable
  | .mismatch _ => .mismatch
  | .axisCount _ _ => .axisCount
  | .unmatched _ => .unmatched
  | .placeholders _ _ => .placeholders
  | .wholeFactor _ _ _ => .wholeFactor
  | .unsized _ => .unsized
  | .operand _ => .operand
  | .chain _ => .chain
  | .reduction _ => .reduction

/-- The kind of an error. -/
def kind (e : ShapeError) : Kind := e.cause.kind

/-- The same error, reported for the spec `whole`. -/
def inSpec (whole : String) (e : ShapeError) : ShapeError := { e with spec := whole }

@[simp]
theorem spec_inSpec (whole : String) (e : ShapeError) : (e.inSpec whole).spec = whole := rfl

@[simp]
theorem cause_inSpec (whole : String) (e : ShapeError) : (e.inSpec whole).cause = e.cause := rfl

end ShapeError

/-! ## Wording -/

/-- A text between backquotes, as messages quote what they speak of. -/
def quoted (s : String) : String := "`" ++ s ++ "`"

/-- The wording of an unreadable text. -/
def Unreadable.message : Unreadable → String
  | .malformed => "<syntax>"
  | .declarationCount found => "expected one declaration, found " ++ toString found
  | .placeholder slot => "slot " ++ quoted slot ++ " is not allowed in a shape annotation"
  | .noArrow => "expected a `source -> target` transform"
  | .arrow => "expected a shape, found a `->` transform"
  | .noExpansionArrow pair => "expansion " ++ quoted pair ++ " is not of the form `dim -> size`"
  | .inferredSource => "`-1` is only allowed on the target side of a view"

/-- What a mismatch expected. -/
def Mismatch.expected : Mismatch → String
  | .elements total _ _ => "a divisor of " ++ total.text ++ " elements"
  | .slotCount source sourceText _ _ => toString source ++ " axes (" ++ sourceText ++ ")"
  | .shape expected _ => expected

/-- What a mismatch found instead. -/
def Mismatch.found : Mismatch → String
  | .elements _ known sizes =>
    known.text ++ " elements in the sized axes of " ++ Text.sizes sizes
  | .slotCount _ _ target targetText => toString target ++ " axes (" ++ targetText ++ ")"
  | .shape _ concrete => Text.sizes concrete

/-- The wording of an unusable operand. -/
def BadOperand.message : BadOperand → String
  | .zeroLiteral => "division by zero"
  | .zeroDivisor divisor => "divisor " ++ quoted divisor ++ " evaluates to zero"
  | .overflow lhs operator rhs =>
    quoted (lhs.text ++ " " ++ operator ++ " " ++ rhs.text) ++ " overflows"
  | .trueDivision lhs rhs =>
    quoted (lhs ++ "/" ++ rhs) ++
      " is a true division, shapes only support floor division `//`"
  | .negativeSize slot size => "slot " ++ quoted slot ++ " has the negative size " ++ size.text
  | .elementCount => "element count overflows a 64-bit integer"

/-- The wording of a chain that does not go together with its tags. -/
def BadChain.message : BadChain → String
  | .unknownTag tag tags =>
    "unknown step tag " ++ quoted (String.singleton tag) ++ " in " ++ quoted tags
  | .tagCount stages found tags =>
    toString stages ++ " stages need " ++ toString (stages - 1) ++ " step tags, got " ++
      toString found ++ " (" ++ quoted tags ++ ")"

/-- The message of an error. -/
def ShapeError.message (e : ShapeError) : String :=
  let spec := quoted e.spec
  match e.cause with
  | .alreadyDeclared symbol =>
    "Dimension variable " ++ quoted symbol ++ " is already declared (while declaring " ++ spec ++
      "). Redeclare it in relaxed mode to overwrite."
  | .notDeclared symbol =>
    "Unknown dimension variable " ++ quoted symbol ++ " in " ++ spec ++ ". Declare it before use."
  | .unreadable reason => "Failed to parse " ++ spec ++ ": " ++ reason.message
  | .mismatch reason =>
    "Shape mismatch in " ++ spec ++ ": expected " ++ reason.expected ++ ", found " ++
      reason.found ++ "."
  | .axisCount expected found =>
    "Dimension count mismatch in " ++ spec ++ ": expected " ++ toString expected ++
      " axes, found " ++ toString found ++ "."
  | .unmatched slot =>
    "Dimension " ++ quoted slot ++ " of " ++ spec ++ " has no counterpart in the source shape."
  | .placeholders source target =>
    "Anonymous placeholders of " ++ spec ++ " cannot be paired: source has " ++
      toString source ++ ", target has " ++ toString target ++ "."
  | .wholeFactor slot before after =>
    "Expansion of " ++ quoted slot ++ " in " ++ spec ++ " from " ++ before.text ++ " to " ++
      after.text ++ " is not a whole-number multiple."
  | .unsized symbol =>
    "Cannot evaluate " ++ spec ++ ": dimension variable " ++ quoted symbol ++ " has no size."
  | .operand reason => "Invalid operand in " ++ spec ++ ": " ++ reason.message ++ "."
  | .chain reason => "Invalid transform chain " ++ spec ++ ": " ++ reason.message ++ "."
  | .reduction slot =>
    "Invalid reduction " ++ spec ++ ": target slot " ++ quoted slot ++
      " has no source axis left in order."

end ShapeAlgebra
