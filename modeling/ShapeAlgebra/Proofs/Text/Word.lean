import Mathlib.Tactic.IntervalCases
import Mathlib.Tactic.Lemma
import ShapeAlgebra.Proofs.Size
import ShapeAlgebra.Text.Blank
import ShapeAlgebra.Text.Word

/-!
# What identifiers and numerals are

The words of the grammars, said without the functions that recognise them.  An identifier is a
letter followed by letters, digits and underscores.  A numeral is a lone zero, or digits of which
the first is not zero.  The recognisers accept exactly these, and the digits of a size are a numeral
of it.
-/

namespace ShapeAlgebra.Text

/-- A letter followed by letters, digits and underscores. -/
def Identifier (cs : List Char) : Prop :=
  ∃ c rest, cs = c :: rest ∧ c.isAlpha = true ∧
    ∀ d ∈ rest, d.isAlpha = true ∨ d.isDigit = true ∨ d = '_'

/-- Decimal digits of the value `n`, of which the first is not zero. -/
structure PositiveNumeral (digits : List Char) (n : Size) : Prop where
  first : ∃ c rest, digits = c :: rest ∧ c ≠ '0'
  all_isDigit : ∀ c ∈ digits, c.isDigit = true
  value : n.toInt = Nat.ofDigitChars 10 digits 0

/-- The digit zero by itself, or a numeral that does not start with it. -/
def Numeral (digits : List Char) (n : Size) : Prop :=
  (digits = ['0'] ∧ n = 0) ∨ PositiveNumeral digits n

/-! ## Characters -/

/-- The letters are those of ASCII. -/
lemma isAlpha_iff {c : Char} : c.isAlpha = true ↔
    (65 ≤ c.toNat ∧ c.toNat ≤ 90) ∨ (97 ≤ c.toNat ∧ c.toNat ≤ 122) := by
  have hupper : c.isUpper = true ↔ 65 ≤ c.toNat ∧ c.toNat ≤ 90 := decide_eq_true_iff
  have hlower : c.isLower = true ↔ 97 ≤ c.toNat ∧ c.toNat ≤ 122 :=
    Bool.and_eq_true_iff.trans (and_congr decide_eq_true_iff decide_eq_true_iff)
  exact Bool.or_eq_true_iff.trans (or_congr hupper hlower)

/-- Letters, digits and underscores are ASCII characters behind the space. -/
lemma toNat_of_isWordChar {c : Char} (h : isWordChar c = true) :
    32 < c.toNat ∧ c.toNat < 128 := by
  simp only [isWordChar, Char.isAlphanum, Bool.or_eq_true, beq_iff_eq] at h
  rcases h with (hletter | hdigit) | rfl
  · have hcodes := isAlpha_iff.1 hletter
    omega
  · have hcodes : 48 ≤ c.toNat ∧ c.toNat ≤ 57 := Char.isDigit_iff_toNat.1 hdigit
    omega
  · decide

/-- Among the ASCII characters behind the space there is no blank. -/
lemma isBlank_eq_false {c : Char} (h : 32 < c.toNat ∧ c.toNat < 128) : isBlank c = false := by
  simp only [isBlank, CodePoints.has, blankPoints, List.any_cons, List.any_nil,
    Bool.or_eq_false_iff, Bool.and_eq_false_iff, decide_eq_false_iff_not, and_true]
  omega

/-- No word character is blank. -/
lemma isBlank_of_isWordChar {c : Char} (h : isWordChar c = true) : isBlank c = false :=
  isBlank_eq_false (toNat_of_isWordChar h)

/-- No blank is a word character. -/
lemma isWordChar_of_isBlank {c : Char} (h : isBlank c = true) : isWordChar c = false := by
  rw [← Bool.not_eq_true]
  intro hword
  rw [isBlank_of_isWordChar hword] at h
  cases h

/-- Every digit is a word character. -/
lemma isWordChar_of_isDigit {c : Char} (h : c.isDigit = true) : isWordChar c = true := by
  simp [isWordChar, Char.isAlphanum, h]

/-- The decimal digits of a number are word characters. -/
lemma isWordChar_of_mem_toDigits {c : Char} {n : Nat} (h : c ∈ Nat.toDigits 10 n) :
    isWordChar c = true :=
  isWordChar_of_isDigit (Nat.isDigit_of_mem_toDigits (by decide) (by decide) h)

/-- A letter is no digit. -/
lemma isDigit_eq_false_of_isAlpha {c : Char} (h : c.isAlpha = true) : c.isDigit = false := by
  have hletter := isAlpha_iff.1 h
  rw [← Bool.not_eq_true, Char.isDigit_iff_toNat]
  change ¬ (48 ≤ c.toNat ∧ c.toNat ≤ 57)
  omega

/-! ## Identifiers -/

/-- The check of identifiers decides what an identifier is. -/
lemma isIdentifier_iff {cs : List Char} : isIdentifier cs = true ↔ Identifier cs := by
  cases cs with
  | nil => simp [isIdentifier, Identifier]
  | cons c rest =>
    simp [isIdentifier, Identifier, isWordChar, Char.isAlphanum, or_assoc]

namespace Identifier

variable {cs : List Char}

/-- No identifier is empty. -/
lemma ne_nil (h : Identifier cs) : cs ≠ [] := by
  obtain ⟨c, rest, rfl, _⟩ := h
  exact List.cons_ne_nil c rest

/-- An identifier consists of word characters. -/
lemma all_isWordChar (h : Identifier cs) : ∀ c ∈ cs, isWordChar c = true := by
  obtain ⟨c, rest, rfl, hletter, hrest⟩ := h
  intro d hd
  rcases List.mem_cons.1 hd with rfl | hd
  · simp [isWordChar, Char.isAlphanum, hletter]
  · rcases hrest d hd with h | h | rfl
    · simp [isWordChar, Char.isAlphanum, h]
    · exact isWordChar_of_isDigit h
    · rfl

end Identifier

/-! ## Numerals -/

/-- Digits of which the first is not zero have a positive value. -/
lemma PositiveNumeral.pos {digits : List Char} {n : Size} (h : PositiveNumeral digits n) :
    0 < n.toInt := by
  obtain ⟨c, rest, rfl, hzero⟩ := h.first
  have hdigit := Char.isDigit_iff_toNat.1 (h.all_isDigit c List.mem_cons_self)
  have hne : c.toNat ≠ '0'.toNat := fun heq => hzero (Char.toNat_inj.1 heq)
  have hpow : 0 < 10 ^ rest.length := Nat.pow_pos (by decide)
  have hfirst : 0 < 10 ^ rest.length * (c.toNat - '0'.toNat) :=
    Nat.mul_pos hpow (by omega)
  rw [h.value, Nat.ofDigitChars_cons, Nat.ofDigitChars_eq_ofDigitChars_zero, Nat.mul_zero,
    Nat.zero_add]
  omega

namespace Numeral

variable {digits : List Char} {n : Size}

/-- No numeral is empty. -/
lemma ne_nil (h : Numeral digits n) : digits ≠ [] := by
  rcases h with ⟨rfl, _⟩ | h
  · exact List.cons_ne_nil _ _
  · obtain ⟨c, rest, rfl, _⟩ := h.first
    exact List.cons_ne_nil c rest

/-- A numeral consists of digits. -/
lemma all_isDigit (h : Numeral digits n) : ∀ c ∈ digits, c.isDigit = true := by
  rcases h with ⟨rfl, _⟩ | h
  · simp
  · exact h.all_isDigit

/-- A numeral consists of word characters. -/
lemma all_isWordChar (h : Numeral digits n) : ∀ c ∈ digits, isWordChar c = true :=
  fun c hc => isWordChar_of_isDigit (h.all_isDigit c hc)

/-- The number of a numeral is not negative. -/
lemma nonneg (h : Numeral digits n) : 0 ≤ n.toInt := by
  rcases h with ⟨_, rfl⟩ | h
  · exact le_rfl
  · exact h.pos.le

/-- A numeral is no identifier. -/
lemma isIdentifier_eq_false (h : Numeral digits n) : isIdentifier digits = false := by
  rw [← Bool.not_eq_true, isIdentifier_iff]
  rintro ⟨c, rest, rfl, hletter, _⟩
  have hdigit := h.all_isDigit c List.mem_cons_self
  rw [isDigit_eq_false_of_isAlpha hletter] at hdigit
  cases hdigit

end Numeral

/-- The reader of numerals accepts the numerals, and answers with their values. -/
lemma numeral?_eq_some_iff {digits : List Char} {n : Size} :
    numeral? digits = some n ↔ Numeral digits n := by
  unfold numeral?
  constructor
  · intro h
    split at h
    · rename_i hdigits
      obtain ⟨hne, hall, hzero⟩ := hdigits
      have hvalue := Size.ofInt?_eq_some_iff.1 h
      obtain ⟨c, rest, rfl⟩ := List.exists_cons_of_ne_nil hne
      -- where the first digit is zero it is the only one
      by_cases hc : c = '0'
      · obtain ⟨rfl, rfl⟩ := List.cons_eq_cons.1 (hzero (by rw [hc]; rfl))
        exact .inl ⟨rfl, Size.eq_zero_iff.2 hvalue⟩
      · exact .inr ⟨⟨c, rest, rfl, hc⟩, List.all_eq_true.1 hall, hvalue⟩
    · cases h
  · rintro (⟨rfl, rfl⟩ | h)
    · rfl
    · obtain ⟨c, rest, hcons, hzero⟩ := h.first
      have hhead : digits.head? = some '0' → digits = ['0'] := by
        rw [hcons]
        intro heq
        exact absurd (Option.some.inj heq) hzero
      have hne : digits ≠ [] := by rw [hcons]; exact List.cons_ne_nil c rest
      rw [if_pos ⟨hne, List.all_eq_true.2 h.all_isDigit, hhead⟩]
      exact Size.ofInt?_eq_some_iff.2 h.value

/-! ## Digits of a size -/

/-- The first decimal digit of a positive number is not zero. -/
lemma exists_first_toDigits {n : Nat} (h : 0 < n) :
    ∃ c rest, Nat.toDigits 10 n = c :: rest ∧ c ≠ '0' := by
  induction n using Nat.strongRecOn with
  | ind n ih =>
    rw [Nat.toDigits_eq_if (by decide)]
    split
    · refine ⟨n.digitChar, [], rfl, ?_⟩
      interval_cases n <;> decide
    · obtain ⟨c, rest, hrest, hc⟩ := ih (n / 10) (by omega) (by omega)
      exact ⟨c, rest ++ [(n % 10).digitChar], by rw [hrest]; rfl, hc⟩

/-- The text of a size without a sign consists of its decimal digits. -/
lemma toList_text {n : Size} (h : 0 ≤ n.toInt) :
    n.text.toList = Nat.toDigits 10 n.toInt.toNat := by
  obtain ⟨m, hm⟩ := Int.eq_ofNat_of_zero_le h
  unfold Size.text
  rw [hm]
  change (toString m).toList = Nat.toDigits 10 m
  rw [Nat.toString_eq_ofList_toDigits, String.toList_ofList]

/-- The text of a negative size consists of a minus sign and the decimal digits of its negation. -/
lemma exists_toList_text {n : Size} (h : n.toInt < 0) :
    ∃ m : Nat, n.toInt = -m ∧ n.text.toList = '-' :: Nat.toDigits 10 m := by
  obtain ⟨m, hm⟩ := Int.eq_negSucc_of_lt_zero h
  refine ⟨m + 1, hm, ?_⟩
  rw [Size.text, hm]
  change ("-" ++ toString (m + 1)).toList = _
  rw [String.toList_append, Nat.toString_eq_ofList_toDigits]
  exact congrArg _ String.toList_ofList

/-- The text of a positive size is a numeral of it. -/
lemma positiveNumeral_text {n : Size} (h : 0 < n.toInt) : PositiveNumeral n.text.toList n := by
  rw [toList_text h.le]
  refine ⟨exists_first_toDigits (by omega), ?_, ?_⟩
  · intro c hc
    exact Nat.isDigit_of_mem_toDigits (by decide) (by decide) hc
  · rw [Nat.ofDigitChars_ten_toDigits]
    omega

/-- The text of a size without a sign is a numeral of it. -/
lemma numeral_text {n : Size} (h : 0 ≤ n.toInt) : Numeral n.text.toList n := by
  rcases h.eq_or_lt with hzero | hpos
  · obtain rfl := Size.eq_zero_iff.2 hzero.symm
    exact .inl ⟨rfl, rfl⟩
  · exact .inr (positiveNumeral_text hpos)

end ShapeAlgebra.Text
