import ShapeAlgebra.Text.Combining
import ShapeAlgebra.Text.EastAsian
import ShapeAlgebra.Text.Emoji

/-!
# The columns of a text

How many columns a text takes on a terminal.  Most characters take one column, marks take none
and wide characters two, but some characters are drawn as one with those behind them: letters that
form a ligature, the parts of an emoji, a character with a selector of its form.  So a text is
measured from its end to its start, and each character is measured in the light of what follows.
-/

namespace ShapeAlgebra.Text

/-! ## What follows a character -/

/-- A letter that can be drawn as one with the letter before it. -/
inductive Ligand where
  /-- Hebrew lamed. -/
  | lamed
  /-- Buginese ya. -/
  | ya
  /-- Buginese ya that is joined to the vowel i before it. -/
  | vowelYa
  /-- A consonant of Tifinagh. -/
  | consonant
  /-- A consonant of Tifinagh behind the sign that joins two of them. -/
  | joinerConsonant
  /-- A tone letter of Lisu that can end a pair. -/
  | tone
  /-- Old Turkic orkhon i. -/
  | orkhonI
  /-- A letter of Khmer that can be drawn below another. -/
  | subscript
  deriving DecidableEq, Repr

/-- The start of an emoji, or of what an emoji may be joined to. -/
inductive EmojiStart where
  /-- A skin colour. -/
  | tone
  /-- A letter of a flag. -/
  | flagLetter
  /-- Several letters of flags. -/
  | flagLetters
  /-- An emoji. -/
  | whole
  /-- A joiner and an emoji. -/
  | joined
  /-- A keycap in front of a joiner and an emoji. -/
  | joinedKeycap
  /-- A letter of a flag in front of a joiner and an emoji. -/
  | joinedLetter
  /-- An even number of letters of flags in front of a joiner and an emoji. -/
  | joinedEven
  /-- An odd number of letters of flags, more than one, in front of a joiner and an emoji. -/
  | joinedOdd
  /-- The end of a tag with `letters` letters and `digits` digits behind them, in front of a
  joiner and an emoji. -/
  | joinedTag (letters digits : Nat)
  deriving DecidableEq, Repr

/-- What stands behind a character, as far as the columns of that character depend on it. -/
inductive Ahead where
  | plain
  /-- A line feed. -/
  | lineFeed
  /-- Arabic alef. -/
  | alef
  /-- A letter that can be part of a ligature, and whether a joiner stands in front of it. -/
  | ligand (letter : Ligand) (joined : Bool)
  | emoji (start : EmojiStart)
  /-- The vowel sign e of Kirat Rai. -/
  | vowelE
  /-- The vowel sign ai of Kirat Rai. -/
  | vowelAi
  deriving DecidableEq, Repr

/-- The form that a selector asks of the character before it. -/
inductive Form where
  /-- Drawn as text. -/
  | text
  /-- Drawn as an emoji. -/
  | emoji
  /-- Drawn in full width. -/
  | fullWidth
  deriving DecidableEq, Repr

/-- What stands behind a character, and the form that is asked of it. -/
structure Context where
  ahead : Ahead
  form : Option Form := none
  deriving DecidableEq, Repr

namespace Context

/-- Nothing that a character would depend on. -/
def plain : Context := { ahead := .plain }

/-- Whether what follows can still form a ligature when a mark comes between. -/
def isLigature (k : Context) : Bool :=
  match k.ahead with
  | .alef | .ligand _ _ => true
  | _ => false

/-- Whether what follows is joined to the emoji that the next character may become. -/
def isJoined (k : Context) : Bool :=
  match k.ahead with
  | .emoji .joined | .emoji .joinedKeycap => true
  | _ => false

/-- The context with a selector of the form `form` in front. -/
def select (form : Form) (k : Context) : Context :=
  if k.isLigature || (form = .emoji && k.isJoined) then { k with form := some form }
  else { ahead := .plain, form := some form }

/-- The context for a character that the form asked for does not apply to. -/
def unselect (k : Context) : Context :=
  match k.form with
  | none => k
  | some _ => if k.isLigature then { k with form := none } else plain

end Context

/-! ## Characters by themselves -/

/-- Whether `c` is an alef of Arabic. -/
def isAlef (c : Char) : Bool :=
  CodePoints.has [(0x0622, 0x0623), (0x0625, 0x0625), (0x0627, 0x0627), (0x0671, 0x0673),
    (0x0675, 0x0675), (0x0773, 0x0774), (0x0870, 0x0882)] c

/-- Whether `c` is a lam of Arabic. -/
def isLam (c : Char) : Bool :=
  CodePoints.has [(0x0644, 0x0644), (0x06B5, 0x06B8), (0x076A, 0x076A), (0x08A6, 0x08A6),
    (0x08C7, 0x08C7)] c

/-- Whether `c` is a letter of Khmer that can be drawn below another. -/
def isSubscriptLetter (c : Char) : Bool :=
  CodePoints.has [(0x1780, 0x1782), (0x1784, 0x1787), (0x1789, 0x178C), (0x178E, 0x1793),
    (0x1795, 0x1798), (0x179B, 0x179D), (0x17A0, 0x17A0), (0x17A2, 0x17A2), (0x17A7, 0x17A7),
    (0x17AB, 0x17AC), (0x17AF, 0x17AF)] c

/-- Whether `c` is a consonant of Tifinagh. -/
def isTifinaghConsonant (c : Char) : Bool :=
  CodePoints.has [(0x2D31, 0x2D65), (0x2D6F, 0x2D6F)] c

/-- Whether `c` is a quotation mark that has a form in full width. -/
def isCurlyQuote (c : Char) : Bool := CodePoints.has [(0x2018, 0x2019), (0x201C, 0x201D)] c

/-- The columns of `c` by itself.  Four signs are drawn otherwise than their properties say. -/
def ownColumns (c : Char) : Nat :=
  if c.toNat = 0x17D8 then 3
  else if c.toNat = 0x115F ∨ c.toNat = 0x17A4 then 2
  else if c.toNat = 0x2D7F then 1
  else if isWeightless c then 0
  else if isWide c then 2
  else 1

/-- Whether letters join across `c`, which takes no column between them. -/
def isJoinTransparent (c : Char) : Bool := ownColumns c = 0 && !separatingPoints.has c

/-- What `c` is to the character before it. -/
def ahead (c : Char) : Ahead :=
  if c.toNat = 0x05DC then .ligand .lamed false
  else if isAlef c then .alef
  else if isSubscriptLetter c then .ligand .subscript false
  else if c.toNat = 0x1A10 then .ligand .ya false
  else if isTifinaghConsonant c then .ligand .consonant false
  else if c.toNat = 0xA4FC ∨ c.toNat = 0xA4FD then .ligand .tone false
  else if c.toNat = 0x10C03 then .ligand .orkhonI false
  else if c.toNat = 0x16D67 then .vowelE
  else if c.toNat = 0x16D68 then .vowelAi
  else if isSkinTone c then .emoji .tone
  else if isFlagLetter c then .emoji .flagLetter
  else if isPictograph c then .emoji .whole
  else .plain

/-! ## Characters in front of others -/

/-- Whether `c` is the joiner, which asks that what is before it be drawn as one with what is
behind it. -/
def isJoiner (c : Char) : Bool := c.toNat = 0x200D

/-- The columns that `c` adds in front of a letter that may form a ligature with it, and what the
two are to the character before them; nothing if they do not go together. -/
def ligatureColumns? (letter : Ligand) (joined : Bool) (c : Char) : Option (Int × Ahead) :=
  match letter with
  | .lamed => if joined && c.toNat = 0x05D0 then some (0, .plain) else none
  | .ya => if joined && c.toNat = 0x1A17 then some (0, .ligand .vowelYa true) else none
  | .vowelYa => if c.toNat = 0x1A15 then some (0, .plain) else none
  | .consonant =>
    if c.toNat = 0x2D7F then some (1, .ligand .joinerConsonant true)
    else if joined && isTifinaghConsonant c then some (0, .plain)
    else none
  | .joinerConsonant => if isTifinaghConsonant c then some (-1, .plain) else none
  | .tone => if 0xA4F8 ≤ c.toNat ∧ c.toNat ≤ 0xA4FB then some (0, .plain) else none
  | .orkhonI => if joined && c.toNat = 0x10C32 then some (0, .plain) else none
  | .subscript => if c.toNat = 0x17D2 then some (-1, .plain) else none

/-- Whether `c` is a letter of a tag. -/
def isTagLetter (c : Char) : Bool := 0xE0061 ≤ c.toNat && c.toNat ≤ 0xE007A

/-- Whether `c` is a digit of a tag. -/
def isTagDigit (c : Char) : Bool := 0xE0030 ≤ c.toNat && c.toNat ≤ 0xE0039

/-- The columns that `c` adds in front of the end of a tag.  A tag for the flag of a region has
up to four letters and then three digits, or three to six letters. -/
def tagColumns? (letters digits : Nat) (c : Char) : Option (Int × Ahead) :=
  if isTagLetter c && digits = 0 && letters < 6 then
    some (0, .emoji (.joinedTag (letters + 1) 0))
  else if isTagDigit c && (0 < digits || letters ≤ 4) && digits < 3 then
    some (0, .emoji (.joinedTag letters (digits + 1)))
  else if c.toNat = 0x1F3F4 && (digits = 3 || (digits = 0 && 3 ≤ letters)) then
    some (0, .emoji .whole)
  else none

/-- The columns that `c` adds in front of the start of an emoji, and what the two are to the
character before them; nothing if they do not go together.  The letters of flags go in pairs from
the left, so that a further one in front can change which of them is left over. -/
def emojiColumns? (start : EmojiStart) (c : Char) : Option (Int × Ahead) :=
  match start with
  | .tone =>
    if isTonable c then some (0, .emoji .whole)
    else if isJoiner c then some (0, .emoji .joined)
    else none
  | .flagLetter => if isFlagLetter c then some (1, .emoji .flagLetters) else none
  | .flagLetters =>
    if isFlagLetter c then some (1, .emoji .flagLetters)
    else if isJoiner c then some (0, .emoji .joined)
    else none
  | .whole => if isJoiner c then some (0, .emoji .joined) else none
  | .joined =>
    if c.toNat = 0x20E3 then some (0, .emoji .joinedKeycap)
    else if isFlagLetter c then some (1, .emoji .joinedLetter)
    else if isSkinTone c then some (0, .emoji .tone)
    else if c.toNat = 0xE007F then some (0, .emoji (.joinedTag 0 0))
    else if isPictograph c then some (0, .emoji .whole)
    else none
  | .joinedKeycap => none
  | .joinedLetter => if isFlagLetter c then some (-1, .emoji .joinedEven) else none
  | .joinedEven =>
    if isFlagLetter c then some (3, .emoji .joinedOdd)
    else if isJoiner c then some (0, .emoji .joined)
    else none
  | .joinedOdd =>
    if isFlagLetter c then some (-1, .emoji .joinedEven)
    else if isJoiner c then some (0, .emoji .joined)
    else none
  | .joinedTag letters digits => tagColumns? letters digits c

/-- The columns that `c` adds in front of `next`, and what the two are to the character before
them; nothing if they do not go together. -/
def pairColumns? (c : Char) (next : Ahead) : Option (Int × Ahead) :=
  match next with
  | .plain | .lineFeed => none
  | .alef =>
    if isLam c then some (0, .plain) else if isJoinTransparent c then some (0, .alef) else none
  | .ligand letter joined =>
    if isJoiner c then some (0, .ligand letter true)
    else if unseenMarkPoints.has c then some (0, .ligand letter joined)
    else ligatureColumns? letter joined c
  | .emoji start => emojiColumns? start c
  | .vowelE =>
    match c.toNat with
    | 0x16D63 | 0x16D69 => some (0, .plain)
    | 0x16D67 => some (0, .vowelAi)
    | 0x16D68 => some (1, .vowelE)
    | _ => none
  | .vowelAi => if c.toNat = 0x16D63 then some (0, .plain) else none

/-- The columns that `c` adds where no selector applies to it, and what it is to the character
before it.  Control characters take a column each, but a carriage return in front of a line feed
none. -/
def unselectedColumns (c : Char) (next : Ahead) : Int × Ahead :=
  if c.toNat ≤ 0xA0 then
    if c = '\n' then (1, .lineFeed)
    else if c = '\r' ∧ next = .lineFeed then (0, .plain)
    else (1, .plain)
  else (pairColumns? c next).getD (ownColumns c, ahead c)

/-- The form that `c` selects, if it is a selector. -/
def selectedForm? (c : Char) : Option Form :=
  match c.toNat with
  | 0xFE0E => some .text
  | 0xFE0F => some .emoji
  | 0xFE01 => some .fullWidth
  | _ => none

/-- Whether `c` has the form `form`. -/
def hasForm (c : Char) : Form → Bool
  | .text => hasNarrowForm c
  | .emoji => hasEmojiForm c
  | .fullWidth => isCurlyQuote c

/-- The columns that `c` adds in front of `k` in the form that `k` asks for, which it has. -/
def formColumns (k : Context) : Form → Int × Context
  | .text => (1, .plain)
  | .emoji => (if k.isJoined then 0 else 2, { ahead := .emoji .whole })
  | .fullWidth => (2, .plain)

/-- The columns that `c` adds in front of `k`, and the context for the character before it. -/
def columnsBefore (c : Char) (k : Context) : Int × Context :=
  match k.form.filter (hasForm c) with
  | some form => formColumns k form
  | none =>
    match selectedForm? c with
    | some form => (0, k.select form)
    | none =>
      let (columns, next) := unselectedColumns c k.unselect.ahead
      (columns, { ahead := next })

/-! ## Texts -/

/-- The columns of `cs`, and the context for a character before it. -/
def measure (cs : List Char) : Int × Context :=
  cs.foldr
    (fun c behind =>
      let (columns, k) := columnsBefore c behind.2
      (columns + behind.1, k))
    (0, .plain)

/-- Whether `c` is one of the 128 characters of ASCII. -/
def isAscii (c : Char) : Bool := c.toNat < 0x80

/-- The number of columns that `s` takes.  Where all of `s` is ASCII, every character takes one. -/
def columns (s : String) : Nat :=
  if s.toList.all isAscii then s.length else (measure s.toList).1.toNat

@[simp]
theorem columns_empty : columns "" = 0 := rfl

/-- A text in ASCII takes as many columns as it has characters. -/
theorem columns_eq_length {s : String} (h : s.toList.all isAscii = true) :
    columns s = s.length := if_pos h

end ShapeAlgebra.Text
