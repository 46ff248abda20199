import QmlAssist.Analysis.Basic
import QmlAssist.Proofs.Catalog.VersionOrder

/-!
# Raising a request

A request for a version is served by all versions up to it, so a greater request should be
served by more of them.  This module says when it is, for requests that are written in digits.

## Main Definitions

* `Version.Numeral` — numbers of any size in digits, joined by dots.
* `Version.Numeral.Readable` — all these numbers have 32 bits at most.

## Main Statements

* `Version.Numeral.digitTexts_text` — a numeral is read as it is written.
* `Version.Numeral.satisfies_of_raised` — when a greater request is served.
* `Version.satisfies_raised_iff` — this condition is also necessary.

## Design Notes

A request with a number of more than 32 bits is not read, and then it is served by every version.
So the greater one of two requests may be the stricter one: `1.4294967296` is served by every
version, and `2` is not (`Version.not_satisfies_raised`).
-/

namespace QmlAssist

namespace Version

/-! ### Numerals -/

/-- Numbers of any size, written in digits and joined by dots. -/
structure Numeral where
  texts : List (List Char)
  nonempty : texts ≠ []
  spelled : ∀ digits ∈ texts, digits ≠ [] ∧ digits.all Char.isDigit = true

namespace Numeral

/-- The written form of a numeral. -/
def text (n : Numeral) : String :=
  String.ofList (['.'].intercalate n.texts)

/-- The numbers that are written. -/
def numbers (n : Numeral) : List Nat :=
  n.texts.map Text.digitsValue

/-- All numbers are small enough to be read. -/
def Readable (n : Numeral) : Prop :=
  ∀ number ∈ n.numbers, number < numberBound

instance (n : Numeral) : Decidable n.Readable :=
  inferInstanceAs (Decidable (∀ number ∈ n.numbers, number < numberBound))

/-- A numeral with a one behind its numbers. -/
def followed (n : Numeral) : Numeral where
  texts := n.texts ++ [['1']]
  nonempty := by simp
  spelled := List.forall_mem_append.2 ⟨n.spelled, by decide⟩

theorem numbers_followed (n : Numeral) : n.followed.numbers = n.numbers ++ [1] :=
  List.map_append

theorem isDigit_of_mem {n : Numeral} {digits : List Char} (among : digits ∈ n.texts) {c : Char}
    (inside : c ∈ digits) : c.isDigit = true :=
  List.all_eq_true.1 (n.spelled digits among).2 c inside

theorem isBlank_of_isDigit {c : Char} (digit : c.isDigit = true) : isBlank c = false := by
  refine isBlank_of_isNameChar (isNameChar_of_isAsciiName ?_)
  rw [isAsciiName, Char.isAlphanum, digit, Bool.or_true, Bool.true_or]

/-- A numeral is read as it is written. -/
theorem digitTexts_text (n : Numeral) : digitTexts n.text = n.texts := by
  have visible : ∀ c ∈ ['.'].intercalate n.texts, isBlank c = false := by
    intro c member
    rcases Text.mem_intercalate member with rfl | ⟨digits, among, inside⟩
    · decide
    · exact isBlank_of_isDigit (isDigit_of_mem among inside)
  refine digitTexts_eq_iff.2 ⟨[], [], [], ?_, by simp, ?_, ?_, ?_, by simp, ?_, by simp⟩
  · simp [text]
  · intro c first
    simp only [List.append_nil] at first
    exact visible c (List.mem_of_mem_head? first)
  · simpa using n.nonempty
  · intro digits member c inside
    exact isDigit_of_mem (by simpa using member) inside
  · exact fun digits member => (n.spelled digits member).1

theorem numbersOf_text (n : Numeral) : numbersOf n.text = n.numbers := by
  rw [numbersOf, digitTexts_text, numbers]

theorem exists_parse?_text_iff {n : Numeral} : (∃ v, parse? n.text = some v) ↔ n.Readable := by
  simp only [parse?_eq_some_iff, exists_and_left, exists_eq, and_true, digitTexts_text]
  rw [Readable, numbers, List.forall_mem_map]
  exact and_iff_right n.nonempty

/-- A request that cannot be read is served by every version. -/
theorem satisfies_of_not_readable {n : Numeral} (unread : ¬n.Readable) (available : String) :
    satisfies available n.text = true := by
  rw [← Bool.not_eq_false, satisfies_eq_false_iff]
  rintro ⟨v, w, -, parsed, -⟩
  exact unread (exists_parse?_text_iff.1 ⟨w, parsed⟩)

/-- What serves a request serves a greater one, if the lesser one can be read or the greater
one cannot. -/
theorem satisfies_of_raised {less greater : Numeral}
    (raised : (cmpPadded less.numbers greater.numbers).isLE = true)
    (read : less.Readable ∨ ¬greater.Readable) {available : String}
    (served : satisfies available less.text = true) : satisfies available greater.text = true := by
  -- what is refused is greater than the greater request, so it cannot serve the lesser one
  by_contra refused
  rw [Bool.not_eq_true, satisfies_eq_false_iff] at refused
  obtain ⟨v, w, parsed, asked, greatest⟩ := refused
  have readable : less.Readable :=
    read.resolve_right (not_not_intro (exists_parse?_text_iff.1 ⟨w, asked⟩))
  obtain ⟨u, asked'⟩ := exists_parse?_text_iff.2 readable
  have lower : (u.cmp w).isLE = true := by
    rw [cmp_of_parse? asked' asked, numbersOf_text, numbersOf_text]
    exact raised
  have lowest : (v.cmp u).isLE = true := by
    rw [satisfies, asked', parsed] at served
    exact served
  have least : (v.cmp w).isLE = true := Std.TransCmp.isLE_trans lowest lower
  rw [greatest] at least
  cases least

/-- A request that can be read is not served by every version. -/
theorem exists_satisfies_eq_false {n : Numeral} (readable : n.Readable) :
    ∃ available, satisfies available n.text = false := by
  have readable' : n.followed.Readable := by
    rw [Readable, numbers_followed, List.forall_mem_append]
    exact ⟨readable, by decide⟩
  obtain ⟨v, parsed⟩ := exists_parse?_text_iff.2 readable'
  obtain ⟨w, asked⟩ := exists_parse?_text_iff.2 readable
  refine ⟨n.followed.text, satisfies_eq_false_iff.2 ⟨v, w, parsed, asked, ?_⟩⟩
  rw [cmp_of_parse? parsed asked, numbersOf_text, numbersOf_text, numbers_followed,
    cmpPadded_concat_one]

theorem readable_of_forall_le {less greater : Numeral}
    (le : ∀ i, less.numbers.getD i 0 ≤ greater.numbers.getD i 0) (readable : greater.Readable) :
    less.Readable := by
  intro number member
  obtain ⟨i, place, rfl⟩ := List.getElem_of_mem member
  have bounded : greater.numbers.getD i 0 < numberBound := by
    rw [List.getD_eq_getElem?_getD]
    cases found : greater.numbers[i]? with
    | none => decide
    | some number => exact readable number (List.mem_of_getElem? found)
  have lower := le i
  rw [List.getD_eq_getElem?_getD, List.getElem?_eq_getElem place] at lower
  exact Nat.lt_of_le_of_lt lower bounded

end Numeral

/-! ### Raised requests -/

/-- Every version that serves one request serves another exactly if an import with the second
one brings in every module that the import with the first one brings in. -/
theorem forall_satisfies_iff_forall_bringsIn {clause clause' : String} :
    (∀ available, satisfies available clause = true → satisfies available clause' = true) ↔
      ∀ path m, (Import.mk path clause).bringsIn m = true →
        (Import.mk path clause').bringsIn m = true := by
  constructor
  · intro serves path m brought
    rw [Import.bringsIn, Bool.or_eq_true, Bool.and_eq_true] at brought ⊢
    refine brought.imp_left ?_
    rintro ⟨named, served⟩
    exact ⟨named, serves m.version served⟩
  · intro brings available served
    have asked : ∀ c, (Import.mk "M" c).bringsIn ⟨"M", available, []⟩ = satisfies available c := by
      intro c
      simp [Import.bringsIn, Module.serves]
    have brought := brings "M" ⟨"M", available, []⟩
    rw [asked, asked] at brought
    exact brought served

/-- **Raising a request.**  Where one numeral is not greater than another, every version that
serves it as a request also serves the other exactly if the lesser numeral can be read or the
greater one cannot; and exactly then a raised import brings in every module that it brought in
before.  This is always so where no single number is lowered. -/
theorem satisfies_raised_iff (less greater : Numeral) :
    ((cmpPadded less.numbers greater.numbers).isLE = true →
      ((∀ available, satisfies available less.text = true →
          satisfies available greater.text = true) ↔ less.Readable ∨ ¬greater.Readable) ∧
      ((∀ path m, (Import.mk path less.text).bringsIn m = true →
          (Import.mk path greater.text).bringsIn m = true) ↔
        less.Readable ∨ ¬greater.Readable)) ∧
    ((∀ i, less.numbers.getD i 0 ≤ greater.numbers.getD i 0) →
      (∀ available, satisfies available less.text = true →
        satisfies available greater.text = true) ∧
      ∀ path m, (Import.mk path less.text).bringsIn m = true →
        (Import.mk path greater.text).bringsIn m = true) := by
  rw [← forall_satisfies_iff_forall_bringsIn, and_self, and_self]
  constructor
  · intro raised
    -- a version just above the greater request serves the lesser one if that cannot be read
    refine ⟨fun serves => ?_, fun read _ => Numeral.satisfies_of_raised raised read⟩
    by_contra unserved
    obtain ⟨unread, read⟩ := not_or.1 unserved
    obtain ⟨available, refused⟩ := Numeral.exists_satisfies_eq_false (not_not.1 read)
    rw [serves available (Numeral.satisfies_of_not_readable unread available)] at refused
    cases refused
  · intro le available
    refine Numeral.satisfies_of_raised (cmpPadded_isLE_of_forall_le le) ?_
    by_cases read : greater.Readable
    · exact Or.inl (Numeral.readable_of_forall_le le read)
    · exact Or.inr read

/-- A request may be raised from the largest number that can be read. -/
theorem satisfies_raised_minor :
    let less : Numeral := ⟨[['2'], "4294967295".toList], by decide, by decide⟩
    let greater : Numeral := ⟨[['3'], ['0']], by decide, by decide⟩
    less.text = "2.4294967295" ∧ greater.text = "3.0" ∧
      (cmpPadded less.numbers greater.numbers).isLE = true ∧ less.Readable ∧
      ∀ available, satisfies available less.text = true →
        satisfies available greater.text = true := by
  intro less greater
  have raised : (cmpPadded less.numbers greater.numbers).isLE = true := by decide
  have readable : less.Readable := by decide
  exact ⟨by decide, by decide, raised, readable,
    ((satisfies_raised_iff less greater).1 raised).1.2 (Or.inl readable)⟩

/-- It may not be raised from the next number: the lesser request cannot be read, so it is served
by a version that the greater one turns down, and the raised import loses the module. -/
theorem not_satisfies_raised :
    let less : Numeral := ⟨[['1'], "4294967296".toList], by decide, by decide⟩
    let greater : Numeral := ⟨[['2']], by decide, by decide⟩
    let m : Module := ⟨"M", "3", [0]⟩
    less.text = "1.4294967296" ∧ greater.text = "2" ∧
      (cmpPadded less.numbers greater.numbers).isLE = true ∧
      satisfies "3" less.text = true ∧ satisfies "3" greater.text = false ∧
      (Import.mk "M" less.text).bringsIn m = true ∧
      (Import.mk "M" greater.text).bringsIn m = false ∧
      ¬∀ (available : String) (less greater : Numeral),
        (cmpPadded less.numbers greater.numbers).isLE = true →
          satisfies available less.text = true → satisfies available greater.text = true := by
  intro less greater m
  have raised : (cmpPadded less.numbers greater.numbers).isLE = true := by decide
  have served : satisfies "3" less.text = true := by decide +kernel
  have refused : satisfies "3" greater.text = false := by decide +kernel
  refine ⟨by decide, by decide, raised, served, refused, by decide +kernel, by decide +kernel, ?_⟩
  intro always
  rw [always "3" less greater raised served] at refused
  cases refused

end Version

end QmlAssist
