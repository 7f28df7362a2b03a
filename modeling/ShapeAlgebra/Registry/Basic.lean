import ShapeAlgebra.Dim.Basic
import ShapeAlgebra.Dim.Listing
import ShapeAlgebra.Error
import ShapeAlgebra.Journal

/-!
# The registry

The registry is the table of the declared dimensions, one for each symbol, in the order of the
symbols.  A declaration of a symbol that is already there is refused under the strict policy and
replaces the old dimension under the relaxed one.  Every registration gets a stamp of its own,
so a dimension handed out earlier can be recognised as replaced: `isCurrent` compares stamps.

The table has no keys of its own.  So what is found under a symbol has that symbol by construction,
and what is left to prove is that the symbols of the table are ascending, and that everything in it
is found.

An operation that may change the table answers with an `Update`: its result, the registry
afterwards, and the events to report.  An operation that is refused for a declaration leaves the
table alone.
-/

namespace ShapeAlgebra

/-- What happens when a symbol is declared a second time. -/
inductive Policy where
  /-- The declaration is refused. -/
  | strict
  /-- The new dimension replaces the old one. -/
  | relaxed
  deriving DecidableEq, Repr

/-- The table of the declared dimensions.  It has no keys of its own: a dimension stands under the
symbol that it has. -/
structure Registry where
  /-- The policy for declarations that do not bring their own. -/
  policy : Policy := .strict
  /-- The registered dimensions, ascending by symbol. -/
  table : List Dim := []
  /-- The stamp of the next registration. -/
  nextStamp : Nat := 0
  deriving DecidableEq, Repr

namespace Registry

/-! ## Reading -/

/-- The dimension registered under `symbol`, which is the first one that has it. -/
def find? (r : Registry) (symbol : String) : Option Dim := r.table.find? (·.symbol == symbol)

/-- The registered symbols, in ascending order. -/
def symbols (r : Registry) : List String := r.table.map Dim.symbol

/-- The registered declarations, in the order of their symbols. -/
def snapshot (r : Registry) : List Decl := r.table.map Dim.decl

/-- Whether `d` is the dimension registered under its symbol now. -/
def isCurrent (r : Registry) (d : Dim) : Bool :=
  match r.find? d.symbol with
  | some registered => registered.sameInstance d
  | none => false

/-- The dimension registered under `symbol`, which `spec` uses. -/
def resolve (r : Registry) (spec symbol : String) : Except ShapeError Dim :=
  match r.find? symbol with
  | some d => .ok d
  | none => .error ⟨spec, .notDeclared symbol⟩

/-- The dimensions of a list of symbols separated by blanks. -/
def lookup (r : Registry) (spec : String) : Except ShapeError (List Dim) :=
  (Text.words spec.toList).mapM fun symbol => r.resolve spec (String.ofList symbol)

/-! ## Registering -/

/-- The table with `d` in its place, instead of the dimension of the same symbol if there is
one. -/
def place (d : Dim) : List Dim → List Dim
  | [] => [d]
  | x :: xs =>
    if d.symbol < x.symbol then d :: x :: xs
    else if d.symbol = x.symbol then d :: xs
    else x :: place d xs

/-- The dimension that the next registration of `decl` yields. -/
def stamped (r : Registry) (decl : Decl) : Dim := ⟨decl, r.nextStamp⟩

/-- The registry after the registration of `decl`. -/
def register (r : Registry) (decl : Decl) : Registry :=
  { r with table := place (r.stamped decl) r.table, nextStamp := r.nextStamp + 1 }

/-- The registry after the registration of `decls`, from left to right. -/
def registerAll (r : Registry) (decls : List Decl) : Registry := decls.foldl register r

/-- The dimensions that the registration of `decls` yields, in order. -/
def stampedAll (r : Registry) : List Decl → List Dim
  | [] => []
  | decl :: decls => r.stamped decl :: (r.register decl).stampedAll decls

/-- The report on the registration of `decl`: it is new, or it replaces what was there. -/
def registration (r : Registry) (decl : Decl) : Event :=
  match r.find? decl.symbol with
  | some old => .overwritten old.decl decl
  | none => .declared decl

/-- The reports on the registration of `decls`, in order. -/
def registrations (r : Registry) : List Decl → List Event
  | [] => []
  | decl :: decls => r.registration decl :: (r.register decl).registrations decls

@[simp]
theorem stampedAll_nil (r : Registry) : r.stampedAll [] = [] := rfl

@[simp]
theorem stampedAll_cons (r : Registry) (decl : Decl) (decls : List Decl) :
    r.stampedAll (decl :: decls) = r.stamped decl :: (r.register decl).stampedAll decls := rfl

@[simp]
theorem registerAll_nil (r : Registry) : r.registerAll [] = r := rfl

@[simp]
theorem registerAll_cons (r : Registry) (decl : Decl) (decls : List Decl) :
    r.registerAll (decl :: decls) = (r.register decl).registerAll decls := rfl

/-- Every declaration gets a stamp. -/
theorem length_stampedAll (r : Registry) (decls : List Decl) :
    (r.stampedAll decls).length = decls.length := by
  induction decls generalizing r with
  | nil => rfl
  | cons decl decls ih => simp [ih]

/-- A placed dimension is found under its symbol, and every other symbol as before. -/
theorem find?_place (d : Dim) (table : List Dim) (symbol : String) :
    (place d table).find? (·.symbol == symbol) =
      if d.symbol = symbol then some d else table.find? (·.symbol == symbol) := by
  induction table with
  | nil => by_cases h : d.symbol = symbol <;> simp [place, h]
  | cons x xs ih =>
    unfold place
    split
    · by_cases h : d.symbol = symbol <;> simp [h]
    · split
      · rename_i same
        by_cases h : d.symbol = symbol
        · simp [h]
        · simp [h, ← same]
      · rename_i other
        by_cases h : d.symbol = symbol
        · subst h
          simp [ih, Ne.symm other]
        · by_cases hx : x.symbol = symbol <;> simp [ih, h, hx]

/-- After a registration its symbol stands for the new dimension, and the others for what they
stood for before. -/
theorem find?_register (r : Registry) (decl : Decl) (symbol : String) :
    (r.register decl).find? symbol =
      if decl.symbol = symbol then some (r.stamped decl) else r.find? symbol :=
  find?_place (r.stamped decl) r.table symbol

/-- Every registration uses up one stamp. -/
theorem nextStamp_registerAll (r : Registry) (decls : List Decl) :
    (r.registerAll decls).nextStamp = r.nextStamp + decls.length := by
  induction decls generalizing r with
  | nil => rfl
  | cons decl decls ih =>
    simp only [registerAll_cons, ih, register, List.length_cons]
    omega

/-! ## Operations -/

/-- The outcome of an operation on a registry. -/
structure Update (α : Type) where
  /-- What the caller gets. -/
  result : Except ShapeError α
  /-- The registry afterwards. -/
  registry : Registry
  /-- What happened, in order. -/
  events : List Event

/-- The update that is refused with `e` and changes nothing. -/
def refused {α : Type} (r : Registry) (e : ShapeError) : Update α := ⟨.error e, r, []⟩

/-- The first symbol of `decls` that is in `taken` or is the symbol of an earlier
declaration. -/
def firstTaken (taken : List String) : List Decl → Option String
  | [] => none
  | decl :: decls =>
    if decl.symbol ∈ taken then some decl.symbol else firstTaken (decl.symbol :: taken) decls

/-- The symbol for which `policy` refuses the registration of `decls`, if it does. -/
def conflict? (r : Registry) (policy : Policy) (decls : List Decl) : Option String :=
  match policy with
  | .strict => firstTaken r.symbols decls
  | .relaxed => none

/-- The registration of `decls`, stated by `spec`, under `policy`: of all or of none. -/
def insertAll (r : Registry) (spec : String) (policy : Policy) (decls : List Decl) :
    Update (List Dim) :=
  match r.conflict? policy decls with
  | some symbol => r.refused ⟨spec, .alreadyDeclared symbol⟩
  | none => ⟨.ok (r.stampedAll decls), r.registerAll decls, r.registrations decls⟩

/-- The registration of the single declaration `decl`, whatever its name and symbol are. -/
def insert (r : Registry) (policy : Policy) (decl : Decl) : Update (List Dim) :=
  r.insertAll decl.text policy [decl]

/-- The declarations that the listing `spec` makes. -/
def readListing (spec : String) : Except ShapeError (List Decl) :=
  match Decl.readAll? spec with
  | some decls => .ok decls
  | none => .error ⟨spec, .unreadable .malformed⟩

/-- The declarations of the listing `spec`, registered under `policy`. -/
def declareWith (r : Registry) (policy : Policy) (spec : String) : Update (List Dim) :=
  match readListing spec with
  | .ok decls => r.insertAll spec policy decls
  | .error e => r.refused e

/-- The declarations of the listing `spec`, registered under the policy of the registry. -/
def declare (r : Registry) (spec : String) : Update (List Dim) := r.declareWith r.policy spec

/-- Declares as `declare` does, and then asks for exactly one declaration.  The count is looked
at after the registration, so a listing of several is registered and refused. -/
def declareOne (r : Registry) (spec : String) : Update (List Dim) :=
  let update := r.declare spec
  match update.result with
  | .ok [d] => { update with result := .ok [d] }
  | .ok dims =>
    { update with result := .error ⟨spec, .unreadable (.declarationCount dims.length)⟩ }
  | .error e => { update with result := .error e }

/-- The declaration of `d` with another size. -/
def resize (d : Dim) (size : Option Size) : Decl := { d.decl with size := size }

/-- The declarations that the listing `spec` turns the registered ones into: the names are those
of the registry, the sizes those of the listing. -/
def resizings (r : Registry) (spec : String) : Except ShapeError (List Decl) := do
  let updates ← readListing spec
  updates.mapM fun update => do
    let d ← r.resolve spec update.symbol
    .ok (resize d update.size)

/-- New sizes for registered dimensions, all of them or none. -/
def updateSizes (r : Registry) (spec : String) : Update (List Dim) :=
  match r.resizings spec with
  | .ok decls => ⟨.ok (r.stampedAll decls), r.registerAll decls, decls.map .resized⟩
  | .error e => r.refused e

end Registry

end ShapeAlgebra
