import ShapeAlgebra.Proofs.Dim.Reading
import ShapeAlgebra.Proofs.Expr.Stripped

/-!
# Reading symbolic texts back

Two expressions with the same symbolic text have the same tree, as long as the names and symbols in
them are identifiers.  The proof reads the text back.  A reader goes through the pieces of a text
once, and keeps a stack of the parentheses that are open.  In front of an operand it knows the sum
and the product that the operand continues; behind one it has joined the operand to the product, and
only the sum is left open.

A text may be shown where a strength is asked for, and the reader's state behind it depends on that
strength: what is shown at the strength of an operand continues any product, what is shown at the
strength of a product any sum, and what is shown at a lower strength stands at the beginning of a
text or of a parenthesis.  The three conditions are `Atomic`, `Multiplicative` and `Additive`, and
each rule of the printer has a lemma that says what it does to them.

A dimension and a floor division both start with a word and a parenthesis, and the word may be
`floor` in both.  They differ in what comes next: the parenthesis of a dimension has a single word
in it, and no operand is a single word.
-/

namespace ShapeAlgebra.Expr

open Text

/-! ## The pieces of a text -/

/-- A piece of a symbolic text. -/
inductive Mark where
  | word (w : List Char)
  | number (n : Nat)
  | sign (op : BinOp)
  | opening
  | closing
  deriving DecidableEq, Repr

/-- The piece that a lexeme is. -/
def Mark.ofLexeme : List Char → Mark
  | ['+'] => .sign .add
  | ['-'] => .sign .sub
  | ['*'] => .sign .mul
  | ['/'] => .sign .floorDiv
  | ['('] => .opening
  | [')'] => .closing
  | w => if w.all Char.isDigit then .number (Nat.ofDigitChars 10 w 0) else .word w

/-- The pieces of a text, without the spaces. -/
def marks (cs : List Char) : List Mark := ((lexemes cs).filter (· != [' '])).map Mark.ofLexeme

/-! ## The reader -/

/-- The left part of an operation whose right operand is read, if there is one. -/
abbrev Pending := Option (Expr × BinOp)

/-- The operand `e` together with what is pending in front of it. -/
def Pending.join : Pending → Expr → Expr
  | none, e => e
  | some (l, op), e => .binary op l e

/-- An open parenthesis, with what is pending in front of it. -/
inductive Opened where
  /-- Around a weaker operand. -/
  | group (sum factor : Pending)
  /-- Around a floor division, in front of the slash. -/
  | dividend (sum factor : Pending)
  /-- Around a floor division, behind the slash. -/
  | divisor (sum factor : Pending) (dividend : Expr)

/-- Where the reader stands. -/
inductive Place where
  | operand (sum factor : Pending)
  /-- Behind the operand that completes the product `e`. -/
  | operator (sum : Pending) (e : Expr)

/-- The dimension that is shown by a name and a symbol. -/
def shownDim (name symbol : List Char) : Dim :=
  ⟨⟨String.ofList name, String.ofList symbol, none⟩, 0⟩

/-- The expression that is read from the pieces of a text, from a place on. -/
def readFrom : Place → List Opened → List Mark → Option Expr
  | .operand sum factor, opened, .opening :: ms =>
    readFrom (.operand none none) (.group sum factor :: opened) ms
  | .operand sum factor, opened, .number n :: ms =>
    readFrom (.operator sum (factor.join (.lit (Int64.ofInt n)))) opened ms
  | .operand sum factor, opened, .sign .sub :: .number n :: ms =>
    readFrom (.operator sum (factor.join (.lit (Int64.ofInt (-n))))) opened ms
  -- a single word in parentheses is a symbol, whatever the name in front of it
  | .operand sum factor, opened, .word name :: .opening :: .word symbol :: .closing :: ms =>
    readFrom (.operator sum (factor.join (.var (shownDim name symbol)))) opened ms
  | .operand sum factor, opened, .word _ :: .opening :: ms =>
    readFrom (.operand none none) (.dividend sum factor :: opened) ms
  | .operator sum e, [], [] => some (sum.join e)
  | .operator sum e, opened, .sign .add :: ms =>
    readFrom (.operand (some (sum.join e, .add)) none) opened ms
  | .operator sum e, opened, .sign .sub :: ms =>
    readFrom (.operand (some (sum.join e, .sub)) none) opened ms
  | .operator sum e, opened, .sign .mul :: ms =>
    readFrom (.operand sum (some (e, .mul))) opened ms
  | .operator sum e, .dividend outer factor :: opened, .sign .floorDiv :: ms =>
    readFrom (.operand none none) (.divisor outer factor (sum.join e) :: opened) ms
  | .operator sum e, .group outer factor :: opened, .closing :: ms =>
    readFrom (.operator outer (factor.join (sum.join e))) opened ms
  | .operator sum e, .divisor outer factor l :: opened, .closing :: ms =>
    readFrom (.operator outer (factor.join (.binary .floorDiv l (sum.join e)))) opened ms
  | _, _, _ => none

/-- The expression that a text is read as. -/
def readBack? (s : String) : Option Expr := readFrom (.operand none none) [] (marks s.toList)

/-! ## What the reader makes of pieces -/

variable {ms ns : List Mark} {e l r : Expr} {op : BinOp}

/-- The pieces are an operand, whatever it continues. -/
def Atomic (ms : List Mark) (e : Expr) : Prop :=
  ∀ sum factor opened rest, readFrom (.operand sum factor) opened (ms ++ rest) =
    readFrom (.operator sum (factor.join e)) opened rest

/-- The pieces are a product, whatever sum it continues. -/
def Multiplicative (ms : List Mark) (e : Expr) : Prop :=
  ∀ sum opened rest, readFrom (.operand sum none) opened (ms ++ rest) =
    readFrom (.operator sum e) opened rest

/-- The pieces are a sum. -/
def Additive (ms : List Mark) (e : Expr) : Prop :=
  ∃ sum last, sum.join last = e ∧ ∀ opened rest,
    readFrom (.operand none none) opened (ms ++ rest) = readFrom (.operator sum last) opened rest

/-- The pieces are read as `e` where the strength `asked` is needed. -/
def Reads (asked : Nat) (ms : List Mark) (e : Expr) : Prop :=
  if asked ≤ 1 then Additive ms e else if asked = 2 then Multiplicative ms e else Atomic ms e

/-- An operand is a product of one factor. -/
lemma Atomic.multiplicative (h : Atomic ms e) : Multiplicative ms e :=
  fun sum opened rest => h sum none opened rest

/-- A product is a sum of one term. -/
lemma Multiplicative.additive (h : Multiplicative ms e) : Additive ms e :=
  ⟨none, e, rfl, fun opened rest => h none opened rest⟩

/-- What is strong enough for one place is strong enough for a place that asks for less. -/
lemma Reads.weaken {own asked : Nat} (h : Reads own ms e) (hle : asked ≤ own) :
    Reads asked ms e := by
  unfold Reads at h ⊢
  by_cases hsum : own ≤ 1
  · rw [if_pos hsum] at h
    rwa [if_pos (hle.trans hsum)]
  · rw [if_neg hsum] at h
    have hproduct : Multiplicative ms e := by
      split at h
      · exact h
      · exact Atomic.multiplicative h
    split
    · exact hproduct.additive
    · split
      · exact hproduct
      · rwa [if_neg (by omega)] at h

/-- A name with a symbol in parentheses is read as a dimension. -/
lemma atomic_var (name symbol : List Char) :
    Atomic [.word name, .opening, .word symbol, .closing] (.var (shownDim name symbol)) :=
  fun _ _ _ _ => rfl

/-- A number is read as a literal. -/
lemma atomic_number (n : Nat) : Atomic [.number n] (.lit (Int64.ofInt n)) :=
  fun _ _ _ _ => rfl

/-- A negative number is read as one literal where no factor is pending in front of it. -/
lemma multiplicative_negative (n : Nat) :
    Multiplicative [.sign .sub, .number n] (.lit (Int64.ofInt (-n))) :=
  fun _ _ _ => rfl

/-- A sum is an operand when it is in parentheses. -/
lemma Additive.enclosed (h : Additive ms e) : Atomic (.opening :: (ms ++ [.closing])) e := by
  obtain ⟨sum, last, rfl, hread⟩ := h
  intro outer factor opened rest
  rw [List.cons_append, List.append_assoc, readFrom, hread]
  rfl

/-- A product goes on with an operand. -/
lemma Multiplicative.mul (hl : Multiplicative ms l) (hr : Atomic ns r) :
    Multiplicative (ms ++ (.sign .mul :: ns)) (.binary .mul l r) := by
  intro sum opened rest
  rw [List.append_assoc, hl, List.cons_append, readFrom, hr]
  rfl

/-- A sum goes on with a product. -/
lemma Additive.sum (hop : op = .add ∨ op = .sub) (hl : Additive ms l) (hr : Multiplicative ns r) :
    Additive (ms ++ (.sign op :: ns)) (.binary op l r) := by
  obtain ⟨sum, last, rfl, hread⟩ := hl
  refine ⟨some (sum.join last, op), r, rfl, fun opened rest => ?_⟩
  rw [List.append_assoc, hread, List.cons_append]
  obtain rfl | rfl := hop <;> rw [readFrom, hr]

/-- The pieces do not start with a word that no parenthesis follows. -/
inductive Leads : List Mark → Prop where
  | call (w : List Char) (ms : List Mark) : Leads (.word w :: .opening :: ms)
  | number (n : Nat) (ms : List Mark) : Leads (.number n :: ms)
  | sign (op : BinOp) (ms : List Mark) : Leads (.sign op :: ms)
  | opening (ms : List Mark) : Leads (.opening :: ms)

/-- How pieces start does not depend on what follows them. -/
lemma Leads.append (h : Leads ms) (ns : List Mark) : Leads (ms ++ ns) := by
  cases h <;> constructor

/-- A parenthesis behind a word is that of a floor division if an operand comes next. -/
lemma Leads.readFrom_dividend (h : Leads ms) (sum factor : Pending) (opened : List Opened)
    (w : List Char) : readFrom (.operand sum factor) opened (.word w :: .opening :: ms) =
      readFrom (.operand none none) (.dividend sum factor :: opened) ms := by
  cases h <;> rfl

/-- Two sums with a slash between them, in parentheses behind a word, are read as a floor division.
That the dividend does not start with a lone word is what tells it from a dimension. -/
lemma Additive.floorDiv (hlead : Leads ms) (hl : Additive ms l) (hr : Additive ns r)
    (w : List Char) :
    Atomic (.word w :: .opening :: (ms ++ (.sign .floorDiv :: (ns ++ [.closing]))))
      (.binary .floorDiv l r) := by
  obtain ⟨lsum, llast, rfl, hlread⟩ := hl
  obtain ⟨rsum, rlast, rfl, hrread⟩ := hr
  intro sum factor opened rest
  -- the dividend is an operand, so that it leads with no single word, even with all that follows
  have hdividend := (hlead.append (.sign .floorDiv :: (ns ++ .closing :: rest))).readFrom_dividend
    sum factor opened w
  simp only [List.cons_append, List.append_assoc, List.nil_append]
  rw [hdividend, hlread, readFrom, hrread]
  rfl

/-! ## The pieces of composed texts -/

/-- A character that runs together with no character outside of words. -/
def Solid (c : Char) : Prop := isBlank c = false ∧ c ≠ '/'

instance (c : Char) : Decidable (Solid c) := inferInstanceAs (Decidable (_ ∧ _))

/-- The text starts with a solid character. -/
def Starts (cs : List Char) : Prop := ∃ c ∈ cs.head?, Solid c

/-- The text ends with a solid character. -/
def Ends (cs : List Char) : Prop := ∃ c ∈ cs.getLast?, Solid c

/-- The text is not empty, and no part of a word is in it. -/
def Separator (cs : List Char) : Prop := cs ≠ [] ∧ ∀ c ∈ cs, isWordChar c = false

instance (cs : List Char) : Decidable (Separator cs) :=
  decidable_of_iff (cs ≠ [] ∧ cs.all (fun c => !isWordChar c) = true) (by simp [Separator])

variable {cs ds sep name symbol : List Char} {c : Char} {n : Size} {asked own : Nat}

/-- Word characters are solid. -/
lemma solid_of_isWordChar (h : isWordChar c = true) : Solid c := by
  refine ⟨isBlank_of_isWordChar h, ?_⟩
  rintro rfl
  exact absurd h (by decide)

/-- How a text starts does not depend on what follows it. -/
lemma Starts.append (h : Starts cs) (ds : List Char) : Starts (cs ++ ds) := by
  obtain ⟨c, hc, hsolid⟩ := h
  refine ⟨c, ?_, hsolid⟩
  rw [List.head?_append, hc]
  rfl

/-- How a text ends does not depend on what comes before it. -/
lemma Ends.append (h : Ends ds) (cs : List Char) : Ends (cs ++ ds) := by
  obtain ⟨c, hc, hsolid⟩ := h
  refine ⟨c, ?_, hsolid⟩
  rw [List.getLast?_append, hc]
  rfl

/-- A word starts with a solid character. -/
lemma starts_of_isWordChar (hne : cs ≠ []) (h : ∀ c ∈ cs, isWordChar c = true) : Starts cs :=
  ⟨cs.head hne, List.head_mem_head? hne, solid_of_isWordChar (h _ (List.head_mem hne))⟩

/-- A word ends with a solid character. -/
lemma ends_of_isWordChar (hne : cs ≠ []) (h : ∀ c ∈ cs, isWordChar c = true) : Ends cs :=
  ⟨cs.getLast hne, List.getLast_mem_getLast? hne, solid_of_isWordChar (h _ (List.getLast_mem hne))⟩

/-- A closing parenthesis is solid. -/
lemma ends_closing : Ends ")".toList := ⟨')', rfl, by decide⟩

/-- Where two texts do not join, the pieces of the whole are those of the one and those of the
other. -/
lemma marks_append (h : Apart cs ds) : marks (cs ++ ds) = marks cs ++ marks ds := by
  unfold marks
  rw [lexemes_append h, List.filter_append, List.map_append]

/-- The pieces of a separator and of what comes behind it. -/
lemma marks_separator_append (hsep : Separator sep) (h : Starts cs) :
    marks (sep ++ cs) = marks sep ++ marks cs := by
  obtain ⟨c, hc, hblank, hslash⟩ := h
  refine marks_append fun x hx y hy => ?_
  obtain rfl := Option.some.inj (hc.symm.trans hy)
  have hx := hsep.2 x (List.mem_of_getLast? hx)
  simp [joins, hx, hblank, hslash]

/-- The pieces of a text in front of a separator. -/
lemma marks_append_separator (h : Ends cs) (hsep : Separator sep) (ds : List Char) :
    marks (cs ++ (sep ++ ds)) = marks cs ++ marks (sep ++ ds) := by
  obtain ⟨c, hc, hblank, hslash⟩ := h
  refine marks_append fun x hx y hy => ?_
  obtain rfl := Option.some.inj (hc.symm.trans hx)
  have hy : y ∈ sep.head? := by rwa [List.head?_append_of_ne_nil sep hsep.1] at hy
  have hy := hsep.2 y (List.mem_of_head? hy)
  simp [joins, hy, hblank, hslash]

/-- A closing parenthesis behind a text is a piece of its own. -/
lemma marks_append_closing (h : Ends cs) : marks (cs ++ ")".toList) = marks cs ++ [.closing] := by
  have hclosing := marks_append_separator h (by decide : Separator ")".toList) []
  rwa [List.append_nil] at hclosing

/-- A word is a single piece, a number if it consists of digits. -/
lemma marks_of_isWordChar (hne : cs ≠ []) (h : ∀ c ∈ cs, isWordChar c = true) :
    marks cs =
      [if cs.all Char.isDigit then .number (Nat.ofDigitChars 10 cs 0) else .word cs] := by
  have hspace : (cs != [' ']) = true := by
    rw [bne_iff_ne]
    rintro rfl
    exact absurd (h _ List.mem_cons_self) (by decide)
  have hlexeme : Mark.ofLexeme cs =
      if cs.all Char.isDigit then .number (Nat.ofDigitChars 10 cs 0) else .word cs := by
    unfold Mark.ofLexeme
    split
    case h_7 => rfl
    all_goals exact absurd (h _ List.mem_cons_self) (by decide)
  rw [marks, lexemes_of_isWordChar hne h, List.filter_cons, if_pos hspace, List.filter_nil,
    List.map_singleton, hlexeme]

/-- An identifier is a single piece, which is a word. -/
lemma marks_identifier (h : Identifier name) : marks name = [.word name] := by
  have hletter : ¬name.all Char.isDigit = true := by
    obtain ⟨c, rest, rfl, hc, -⟩ := h
    rw [List.all_cons, isDigit_eq_false_of_isAlpha hc]
    exact Bool.false_ne_true
  rw [marks_of_isWordChar h.ne_nil h.all_isWordChar, if_neg hletter]

/-- The digits of a number are a single piece, which is that number. -/
lemma marks_digits (m : Nat) : marks (Nat.toDigits 10 m) = [.number m] := by
  have hdigits : (Nat.toDigits 10 m).all Char.isDigit = true :=
    List.all_eq_true.2 fun c hc => Nat.isDigit_of_mem_toDigits (by decide) (by decide) hc
  rw [marks_of_isWordChar Nat.toDigits_ne_nil fun c hc => isWordChar_of_mem_toDigits hc,
    if_pos hdigits, Nat.ofDigitChars_ten_toDigits]

/-! ## What is shown where -/

/-- The text is shown for `e` where the strength `asked` is needed. -/
structure Shows (asked : Nat) (cs : List Char) (e : Expr) : Prop where
  starts : Starts cs
  ends : Ends cs
  leads : Leads (marks cs)
  reads : Reads asked (marks cs) e

namespace Shows

/-- A text is shown as its pieces are read. -/
lemma of_marks {ms : List Mark} (hmarks : marks cs = ms) (hstarts : Starts cs) (hends : Ends cs)
    (hleads : Leads ms) (hreads : Reads asked ms e) : Shows asked cs e := by
  subst hmarks
  exact ⟨hstarts, hends, hleads, hreads⟩

/-- A text that is shown where more strength is needed can be shown where less is. -/
lemma weaken (h : Shows own cs e) (hle : asked ≤ own) : Shows asked cs e :=
  { h with reads := h.reads.weaken hle }

/-- A dimension is shown by its name and symbol, wherever it stands. -/
lemma var (hname : Identifier name) (hsymbol : Identifier symbol) :
    Shows 3 (name ++ ("(".toList ++ (symbol ++ ")".toList))) (.var (shownDim name symbol)) := by
  have hstarts := starts_of_isWordChar hsymbol.ne_nil hsymbol.all_isWordChar
  have hmarks : marks (name ++ ("(".toList ++ (symbol ++ ")".toList))) =
      [.word name, .opening, .word symbol, .closing] := by
    rw [marks_append_separator (ends_of_isWordChar hname.ne_nil hname.all_isWordChar) (by decide),
      marks_separator_append (by decide) (hstarts.append _),
      marks_append_closing (ends_of_isWordChar hsymbol.ne_nil hsymbol.all_isWordChar),
      marks_identifier hname, marks_identifier hsymbol]
    rfl
  refine of_marks hmarks ?_ ?_ (.call name _) (atomic_var name symbol)
  · exact (starts_of_isWordChar hname.ne_nil hname.all_isWordChar).append _
  · exact ((ends_closing.append symbol).append _).append _

/-- A number that is not negative is shown by its digits, wherever it stands. -/
lemma number (m : Nat) : Shows 3 (Nat.toDigits 10 m) (.lit (Int64.ofInt m)) := by
  refine of_marks (marks_digits m) ?_ ?_ (.number m []) (atomic_number m)
  · exact starts_of_isWordChar Nat.toDigits_ne_nil fun _ => isWordChar_of_mem_toDigits
  · exact ends_of_isWordChar Nat.toDigits_ne_nil fun _ => isWordChar_of_mem_toDigits

/-- A negative number is shown by its sign and digits, unless it stands where an operand is needed.
-/
lemma negative (m : Nat) :
    Shows 2 ("-".toList ++ Nat.toDigits 10 m) (.lit (Int64.ofInt (-m))) := by
  have hnumber := number m
  have hmarks : marks ("-".toList ++ Nat.toDigits 10 m) = [.sign .sub, .number m] := by
    rw [marks_separator_append (by decide) hnumber.starts, marks_digits]
    rfl
  exact of_marks hmarks ⟨'-', rfl, by decide⟩ (hnumber.ends.append _) (.sign .sub _)
    (multiplicative_negative m)

/-- What is in parentheses is strong enough everywhere. -/
lemma enclosed (h : Shows own cs e) : Shows 3 ("(".toList ++ (cs ++ ")".toList)) e := by
  have hmarks : marks ("(".toList ++ (cs ++ ")".toList)) =
      .opening :: (marks cs ++ [.closing]) := by
    rw [marks_separator_append (by decide) (h.starts.append _), marks_append_closing h.ends]
    rfl
  have hsum : Additive (marks cs) e := (h.weaken (Nat.zero_le own)).reads
  exact of_marks hmarks ⟨'(', rfl, by decide⟩ ((ends_closing.append cs).append _) (.opening _)
    hsum.enclosed

/-- A product is shown by its operands with the sign between them, the right one as an operand. -/
lemma mul (hl : Shows 2 cs l) (hr : Shows 3 ds r) :
    Shows 2 (cs ++ ("*".toList ++ ds)) (.binary .mul l r) := by
  have hmarks : marks (cs ++ ("*".toList ++ ds)) = marks cs ++ (.sign .mul :: marks ds) := by
    rw [marks_append_separator hl.ends (by decide), marks_separator_append (by decide) hr.starts]
    rfl
  exact of_marks hmarks (hl.starts.append _) ((hr.ends.append _).append _) (hl.leads.append _)
    (Multiplicative.mul hl.reads hr.reads)

/-- A sum or a difference is shown by its operands with the spaced sign between them, the right one
as a product. -/
lemma sum (hop : op = .add ∨ op = .sub) (hl : Shows 1 cs l) (hr : Shows 2 ds r) :
    Shows 1 (cs ++ ((spacedSign op).toList ++ ds)) (.binary op l r) := by
  have hsep : Separator (spacedSign op).toList := by obtain rfl | rfl := hop <;> decide
  have hsign : marks (spacedSign op).toList = [.sign op] := by obtain rfl | rfl := hop <;> rfl
  have hmarks : marks (cs ++ ((spacedSign op).toList ++ ds)) =
      marks cs ++ (.sign op :: marks ds) := by
    rw [marks_append_separator hl.ends hsep, marks_separator_append hsep hr.starts, hsign]
    rfl
  exact of_marks hmarks (hl.starts.append _) ((hr.ends.append _).append _) (hl.leads.append _)
    (Additive.sum hop hl.reads hr.reads)

/-- A floor division is shown by its operands in parentheses of its own, wherever it stands. -/
lemma floorDiv (hl : Shows 2 cs l) (hr : Shows 3 ds r) :
    Shows 3 ("floor".toList ++ ("(".toList ++ (cs ++ ("/".toList ++ (ds ++ ")".toList)))))
      (.binary .floorDiv l r) := by
  have hmarks :
      marks ("floor".toList ++ ("(".toList ++ (cs ++ ("/".toList ++ (ds ++ ")".toList))))) =
        .word "floor".toList :: .opening ::
          (marks cs ++ (.sign .floorDiv :: (marks ds ++ [.closing]))) := by
    rw [marks_append_separator ⟨'r', rfl, by decide⟩ (by decide),
      marks_separator_append (by decide) (hl.starts.append _),
      marks_append_separator hl.ends (by decide),
      marks_separator_append (by decide) (hr.starts.append _), marks_append_closing hr.ends]
    rfl
  have hdividend : Additive (marks cs) l := (hl.weaken (Nat.zero_le 2)).reads
  have hdivisor : Additive (marks ds) r := (hr.weaken (Nat.zero_le 3)).reads
  refine of_marks hmarks ⟨'f', rfl, by decide⟩ ?_ (.call _ _)
    (hdividend.floorDiv hl.leads hdivisor _)
  exact ((((ends_closing.append ds).append _).append cs).append _).append _

end Shows

/-- The names and symbols in an expression are identifiers. -/
def WellNamed : Expr → Prop
  | .var d => Identifier d.name.toList ∧ Identifier d.symbol.toList
  | .lit _ => True
  | .binary _ l r => l.WellNamed ∧ r.WellNamed

instance decidableWellNamed : (e : Expr) → Decidable e.WellNamed
  | .var _ => decidable_of_iff _ (and_congr isIdentifier_iff isIdentifier_iff)
  | .lit _ => .isTrue trivial
  | .binary _ l r => @instDecidableAnd _ _ (decidableWellNamed l) (decidableWellNamed r)

/-- The characters of a text in parentheses. -/
lemma toList_parenthesised (s : String) :
    (parenthesised s).toList = "(".toList ++ (s.toList ++ ")".toList) := by
  rw [parenthesised, String.toList_append, String.toList_append, List.append_assoc]

/-- A text is put in parentheses where it is too weak. -/
lemma Shows.enclosed_if {s : String} (h : Shows own s.toList e) (hasked : asked ≤ 3) :
    Shows asked (if own < asked then parenthesised s else s).toList e := by
  split
  · rw [toList_parenthesised]
    exact h.enclosed.weaken hasked
  · rename_i hlt
    exact h.weaken (Nat.not_lt.1 hlt)

/-- The text of a negative number is as strong as a product. -/
lemma shows_text_of_neg (h : n < 0) : Shows 2 n.text.toList (.lit n) := by
  obtain ⟨m, hm, htext⟩ := exists_toList_text (Int64.lt_iff_toInt_lt.1 h)
  have hnegative := Shows.negative m
  rw [← hm, Int64.ofInt_toInt] at hnegative
  rw [htext]
  exact hnegative

/-- A number that is not negative is shown by its text, wherever it stands. -/
lemma shows_text_of_nonneg (h : ¬n < 0) : Shows 3 n.text.toList (.lit n) := by
  have hnonneg : 0 ≤ n.toInt := Int64.le_iff_toInt_le.1 (Int64.not_lt.1 h)
  have hnumber := Shows.number n.toInt.toNat
  rwa [← toList_text hnonneg, Int.toNat_of_nonneg hnonneg, Int64.ofInt_toInt] at hnumber

/-- The text of a well-named expression is shown for it. -/
lemma shows_symbolicAt (h : e.WellNamed) (hasked : asked ≤ 3) :
    Shows asked (e.symbolicAt asked).toList e.stripped := by
  induction e generalizing asked with
  | var d =>
    have hvar := Shows.var h.1 h.2
    rw [shownDim, String.ofList_toList, String.ofList_toList] at hvar
    rw [symbolicAt, String.toList_append, toList_parenthesised]
    exact hvar.weaken hasked
  | lit n =>
    rw [symbolicAt]
    split
    · rename_i hneg
      rw [toList_parenthesised]
      exact (shows_text_of_neg hneg.1).enclosed.weaken hasked
    · rename_i hnot
      by_cases hneg : n < 0
      · -- a negative number goes without parentheses only where nothing is asked of it
        have hzero : asked = 0 := Nat.eq_zero_of_not_pos fun hpos => hnot ⟨hneg, hpos⟩
        exact (shows_text_of_neg hneg).weaken (by omega)
      · exact (shows_text_of_nonneg hneg).weaken hasked
  | binary op l r ihl ihr =>
    obtain ⟨hl, hr⟩ := h
    have hsum {op : BinOp} (hop : op = .add ∨ op = .sub) :
        Shows 1 (l.symbolicAt 1 ++ spacedSign op ++ r.symbolicAt 2).toList
          (.binary op l.stripped r.stripped) := by
      rw [String.toList_append, String.toList_append, List.append_assoc]
      exact .sum hop (ihl hl (by decide)) (ihr hr (by decide))
    cases op with
    | add => exact (hsum (.inl rfl)).enclosed_if hasked
    | sub => exact (hsum (.inr rfl)).enclosed_if hasked
    | mul =>
      have hproduct : Shows 2 (l.symbolicAt 2 ++ "*" ++ r.symbolicAt 3).toList
          (.binary .mul l.stripped r.stripped) := by
        rw [String.toList_append, String.toList_append, List.append_assoc]
        exact .mul (ihl hl (by decide)) (ihr hr (by decide))
      exact hproduct.enclosed_if hasked
    | floorDiv =>
      rw [symbolicAt, String.toList_append, toList_parenthesised, String.toList_append,
        String.toList_append, List.append_assoc, List.append_assoc]
      exact (Shows.floorDiv (ihl hl (by decide)) (ihr hr (by decide))).weaken hasked

/-! ## Main statement -/

/-- The symbolic text of a well-named expression is read back as that expression, as far as the text
shows it. -/
lemma readBack?_symbolic (h : e.WellNamed) : readBack? e.symbolic = some e.stripped := by
  obtain ⟨sum, last, hjoin, hread⟩ : Additive (marks e.symbolic.toList) e.stripped :=
    (shows_symbolicAt h (Nat.zero_le 3)).reads
  have hall := hread [] []
  rw [List.append_nil] at hall
  rw [readBack?, hall, readFrom, hjoin]

/-- Symbolic texts are unambiguous: expressions over identifiers that have the same text are the
same, and even their names agree.  The dimensions that a listing declares are named by
identifiers. -/
theorem symbolic_unambiguous :
    (∀ listing ds, Decl.readAll? listing = some ds →
      ∀ d ∈ ds, ∀ stamp, (Expr.var ⟨d, stamp⟩).WellNamed) ∧
    ∀ a b : Expr, a.WellNamed → b.WellNamed →
      (a.symbolic = b.symbolic → a.same b = true) ∧
        (a.symbolic = b.symbolic ↔ a.stripped = b.stripped) := by
  refine ⟨fun listing ds hread d hd stamp => ?_, fun a b ha hb => ?_⟩
  · have hvalid := (Decl.readAll?_eq_some_iff.1 hread).valid.2 d hd
    exact ⟨hvalid.name, hvalid.symbol⟩
  · have hstripped : a.symbolic = b.symbolic → a.stripped = b.stripped := by
      intro htext
      have hb := readBack?_symbolic hb
      rw [← htext, readBack?_symbolic ha] at hb
      exact Option.some.inj hb
    refine ⟨fun htext => ?_, hstripped, fun h => ?_⟩
    · rw [← same_stripped, hstripped htext]
      exact same_self _
    · rw [← symbolic_stripped, h, symbolic_stripped]

/-- A dimension named `floor` divided by three, with a negative number: the text is that of any
dimension with this name and symbol, and grouping the two differences otherwise changes it. -/
theorem symbolic_unambiguous_floor :
    let x (size : Option Size) : Expr := .var ⟨⟨"floor", "x_1", size⟩, 0⟩
    let third : Expr := .binary .floorDiv (.mul (x none) (.lit (-2))) (.lit 3)
    let right (size : Option Size) : Expr := .sub (x size) (.sub (.lit (-2)) third)
    let left : Expr := .sub (.sub (x none) (.lit (-2))) third
    (right none).symbolic = "floor(x_1) - ((-2) - floor(floor(x_1)*(-2)/3))" ∧
      Decl.readAll? "floor(x_1):7" = some [⟨"floor", "x_1", some 7⟩] ∧ (x (some 7)).WellNamed ∧
      (right none).WellNamed ∧ (right (some 7)).WellNamed ∧ left.WellNamed ∧
      (right none).same (right (some 7)) = true ∧ left.symbolic ≠ (right none).symbolic := by
  intro x third right left
  have hread : Decl.readAll? "floor(x_1):7" = some [⟨"floor", "x_1", some 7⟩] := rfl
  have hx : (x (some 7)).WellNamed :=
    symbolic_unambiguous.1 _ _ hread _ List.mem_cons_self 0
  have hthird : third.WellNamed := ⟨⟨hx, trivial⟩, trivial⟩
  have hright (size : Option Size) : (right size).WellNamed := ⟨hx, trivial, hthird⟩
  have hleft : left.WellNamed := ⟨⟨hx, trivial⟩, hthird⟩
  refine ⟨by decide, hread, hx, hright none, hright (some 7), hleft, ?_, fun htext => ?_⟩
  · exact (symbolic_unambiguous.2 _ _ (hright none) (hright (some 7))).1 rfl
  · exact absurd ((symbolic_unambiguous.2 _ _ hleft (hright none)).2.1 htext) (by decide)

end ShapeAlgebra.Expr
