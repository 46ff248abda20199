import QmlAssist.Text.CharClass

/-!
# Laws of the character classes

Blanks spell neither words nor names, and the letters, the digits and the low line
of ASCII spell both.  Both laws are read off the tables, after the characters in
question are known to be finitely many.

## Main Definitions

* `isAsciiName` — the characters that spell names in ASCII.
-/

namespace QmlAssist

/-! ### Blanks -/

/-- The scalar values of all blanks. -/
def blankValues : List Nat :=
  [0x09, 0x0A, 0x0B, 0x0C, 0x0D, 0x20, 0x85, 0xA0, 0x1680, 0x2000, 0x2001, 0x2002, 0x2003,
    0x2004, 0x2005, 0x2006, 0x2007, 0x2008, 0x2009, 0x200A, 0x2028, 0x2029, 0x202F, 0x205F,
    0x3000]

theorem toNat_mem_blankValues {c : Char} (blank : isBlank c = true) :
    c.toNat ∈ blankValues := by
  simp only [isBlank, Unicode.isWhiteSpace, Unicode.whiteSpaceTable,
    Unicode.RangeTable.contains, Bool.if_false_left, Bool.if_true_left, Bool.and_eq_true,
    Bool.or_eq_true, Bool.not_eq_true', decide_eq_true_eq, decide_eq_false_iff_not,
    Bool.false_eq_true, or_false] at blank
  simp only [blankValues, List.mem_cons, List.not_mem_nil, or_false]
  omega

/-- Blanks spell neither words nor names. -/
theorem isWordChar_isNameChar_of_isBlank {c : Char} (blank : isBlank c = true) :
    isWordChar c = false ∧ isNameChar c = false := by
  have apart : ∀ n ∈ blankValues,
      isWordChar (Char.ofNat n) = false ∧ isNameChar (Char.ofNat n) = false := by
    decide +kernel
  have value := apart c.toNat (toNat_mem_blankValues blank)
  rwa [Char.ofNat_toNat] at value

theorem isWordChar_of_isBlank {c : Char} (blank : isBlank c = true) : isWordChar c = false :=
  (isWordChar_isNameChar_of_isBlank blank).1

theorem isNameChar_of_isBlank {c : Char} (blank : isBlank c = true) : isNameChar c = false :=
  (isWordChar_isNameChar_of_isBlank blank).2

theorem isBlank_of_isNameChar {c : Char} (name : isNameChar c = true) : isBlank c = false := by
  cases blank : isBlank c with
  | false => rfl
  | true =>
      rw [isNameChar_of_isBlank blank] at name
      exact name.symm

/-! ### Names in ASCII -/

/-- The letters, the digits and the low line of ASCII. -/
def isAsciiName (c : Char) : Bool :=
  c.isAlphanum || c == '_'

theorem toNat_lt_of_isAsciiName {c : Char} (ascii : isAsciiName c = true) : c.toNat < 128 := by
  change (((decide (c.val ≥ 'A'.val ∧ c.val ≤ 'Z'.val) ||
    (decide (c.val ≥ 'a'.val) && decide (c.val ≤ 'z'.val))) ||
    (decide (c.val ≥ '0'.val) && decide (c.val ≤ '9'.val))) || c == '_') = true at ascii
  simp only [Bool.or_eq_true, Bool.and_eq_true, decide_eq_true_eq, beq_iff_eq,
    UInt32.le_iff_toNat_le, ge_iff_le] at ascii
  have value : c.toNat = c.val.toNat := rfl
  have last : 'Z'.val.toNat = 90 ∧ 'z'.val.toNat = 122 ∧ '9'.val.toNat = 57 := ⟨rfl, rfl, rfl⟩
  rcases ascii with letters | rfl
  · omega
  · decide

/-- The characters that spell names in ASCII spell words and names. -/
theorem isWordChar_isNameChar_of_isAsciiName {c : Char} (ascii : isAsciiName c = true) :
    isWordChar c = true ∧ isNameChar c = true := by
  have spells : ∀ n < 128, isAsciiName (Char.ofNat n) = true →
      isWordChar (Char.ofNat n) = true ∧ isNameChar (Char.ofNat n) = true := by
    decide +kernel
  have value := spells c.toNat (toNat_lt_of_isAsciiName ascii)
  rw [Char.ofNat_toNat] at value
  exact value ascii

theorem isNameChar_of_isAsciiName {c : Char} (ascii : isAsciiName c = true) :
    isNameChar c = true :=
  (isWordChar_isNameChar_of_isAsciiName ascii).2

end QmlAssist
