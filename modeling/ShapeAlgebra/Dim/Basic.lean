import ShapeAlgebra.Dim.Decl

/-!
# Dimensions

A dimension is a declaration together with the stamp of its registration.  Two dimensions name
the same axis when their symbols agree; they are the same instance when their stamps do.  A
symbol that is declared again gets a new stamp, and whoever holds the old dimension keeps the
old name and size.
-/

namespace ShapeAlgebra

/-- A registered dimension. -/
structure Dim where
  /-- What was declared. -/
  decl : Decl
  /-- The number of the registration, different for every registration of one registry. -/
  stamp : Nat
  deriving DecidableEq, Repr

namespace Dim

/-- The name shown to the reader. -/
def name (d : Dim) : String := d.decl.name

/-- The symbol by which specs refer to the dimension. -/
def symbol (d : Dim) : String := d.decl.symbol

/-- The declared size, if there is one. -/
def size (d : Dim) : Option Size := d.decl.size

/-- The text `Name(symbol):size`. -/
def text (d : Dim) : String := d.decl.text

/-- The text of a dimension marked as such, for messages that list values of many kinds. -/
def taggedText (d : Dim) : String := "DimVar(" ++ d.text ++ ")"

/-- Whether two dimensions name the same axis. -/
def sameAxis (a b : Dim) : Bool := a.symbol == b.symbol

/-- Whether two dimensions come from the same registration. -/
def sameInstance (a b : Dim) : Bool := a.stamp == b.stamp

/-- Dimensions are ordered by their symbols. -/
instance : Ord Dim where
  compare a b := compare a.symbol b.symbol

/-- Dimensions that name the same axis have the same hash. -/
instance : Hashable Dim where
  hash d := hash d.symbol

/-- Dimensions belong to the same axis when they have the same symbol. -/
theorem sameAxis_iff {a b : Dim} : sameAxis a b = true ↔ a.symbol = b.symbol := by
  simp [sameAxis]

/-- Dimensions of the same axis have the same hash, as tables that are keyed by axes rely on. -/
theorem hash_eq_of_sameAxis {a b : Dim} (h : sameAxis a b = true) : hash a = hash b := by
  simp [hash, sameAxis_iff.1 h]

end Dim

end ShapeAlgebra
