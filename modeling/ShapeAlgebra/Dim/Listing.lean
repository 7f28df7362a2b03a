import ShapeAlgebra.Dim.Decl
import ShapeAlgebra.Text.Lexeme

/-!
# Listings of declarations

The grammar in which dimensions are declared.  A listing is a sequence of entries separated by
blanks, as in `Batch(b):20 SeqLength(t) (k):1`.  An entry is a name, a symbol in parentheses, or
both, and after a colon possibly a size, which is positive.  Of name and symbol the one that is
left out equals the other.  Blanks may stand around a listing and inside the parentheses of a
symbol, and nowhere else.

A listing is read in four strokes: `Token.ofChars?` names its lexemes, `tighten` drops the
blanks inside parentheses, the remaining blanks cut it into entries, and `readEntry?` reads each
entry by itself.  A grammar put together from smaller ones says the same as follows.

* A symbol is a padded identifier, delimited by parentheses.  These are the only blanks that do not
  end an entry, and `tighten` takes away just them.
* An entry is a choice: an identifier and possibly a symbol, or a symbol alone.  These are the three
  forms of `readNames?`.  Behind it there may be a colon and a size, with no blanks around the
  colon: these are the two forms of `readEntry?`.
* A size is a number without leading zeros that is positive and not too large, which is `readSize?`.
* A listing is one entry or more, separated by at least one blank each, padded, and has to be used
  up.  A run of blanks is one token, so that cutting at it and leaving out what is empty, in front
  of the first entry and behind the last, gives the entries.
-/

namespace ShapeAlgebra.Decl

open Text

/-! ## Tokens -/

/-- The pieces of a listing. -/
inductive Token where
  /-- A run of word characters, not yet known to be an identifier or a numeral. -/
  | word (chars : List Char)
  | opening
  | closing
  | colon
  | space
  deriving DecidableEq, Repr

/-- The token that a lexeme is, if listings know it. -/
def Token.ofLexeme? : List Char → Option Token
  | [] => none
  | '(' :: _ => some .opening
  | ')' :: _ => some .closing
  | ':' :: _ => some .colon
  | c :: cs =>
    if isWordChar c then some (.word (c :: cs))
    else if isBlank c then some .space
    else none

/-- The tokens of a text, if every lexeme of it is one. -/
def Token.ofChars? (cs : List Char) : Option (List Token) := (lexemes cs).mapM Token.ofLexeme?

/-- The tokens `ts` without the blanks that follow an opening or precede a closing
parenthesis. -/
def tighten : List Token → List Token
  | .opening :: .space :: ts => .opening :: tighten ts
  | .space :: .closing :: ts => .closing :: tighten ts
  | t :: ts => t :: tighten ts
  | [] => []

/-! ## Entries -/

/-- The identifier that a word is, if it is one. -/
def identifier? (cs : List Char) : Option String :=
  if isIdentifier cs then some (String.ofList cs) else none

/-- The name and the symbol of an entry without its size. -/
def readNames? : List Token → Option (String × String)
  | [.word n] => (identifier? n).map fun name => (name, name)
  | [.opening, .word s, .closing] => (identifier? s).map fun symbol => (symbol, symbol)
  | [.word n, .opening, .word s, .closing] => do
    let name ← identifier? n
    let symbol ← identifier? s
    some (name, symbol)
  | _ => none

/-- The size of an entry: a numeral that is not zero. -/
def readSize? (cs : List Char) : Option Size := (numeral? cs).filter (· ≠ 0)

/-- The declaration that an entry states, if it is well formed. -/
def readEntry? (entry : List Token) : Option Decl :=
  match entry.splitOn .colon with
  | [names] => do
    let (name, symbol) ← readNames? names
    some ⟨name, symbol, none⟩
  | [names, [.word digits]] => do
    let (name, symbol) ← readNames? names
    let size ← readSize? digits
    some ⟨name, symbol, some size⟩
  | _ => none

/-! ## Listings -/

/-- The entries of a listing, cut at its blanks. -/
def entries (tokens : List Token) : List (List Token) :=
  ((tighten tokens).splitOn .space).filter (· ≠ [])

/-- The declarations of a listing, in order, if there is at least one and every entry is well
formed. -/
def readAll? (listing : String) : Option (List Decl) := do
  let tokens ← Token.ofChars? listing.toList
  let decls ← (entries tokens).mapM readEntry?
  if decls = [] then none else some decls

end ShapeAlgebra.Decl
