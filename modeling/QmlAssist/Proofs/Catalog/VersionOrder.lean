import Mathlib.Data.List.DropRight
import QmlAssist.Proofs.Catalog.Version
import QmlAssist.Proofs.Text.Pieces

/-!
# Versions as sequences of numbers

A version ends with zeros that can be left out, so `2` and `2.0` are one version.  This module
says which numbers a text denotes, and that versions are compared as if the shorter sequence of
numbers went on with zeros.

## Main Definitions

* `Version.BeginsWith` — the digit texts that a text begins with.
* `Version.cmpPadded` — comparison of sequences of numbers that are filled up with zeros.

## Main Statements

* `Version.digitTexts_eq_iff` — reading finds the digit texts that a text begins with.
* `Version.cmpNumbers_dropTrailingZeros` — zeros at the end make no difference to comparisons.
* `Version.parse?_cmp_satisfies_padded` — which texts hold versions, how these are ordered, and
  which requests they serve.
-/

namespace QmlAssist

namespace Version

/-! ### The digit texts of a version -/

/-- The digit texts that a text begins with.  Behind blanks stand texts of digits, joined by
dots, as far as digits and dots go; those in front of the first empty one are kept. -/
def BeginsWith (text : String) (kept : List (List Char)) : Prop :=
  ∃ blanks dropped rest,
    text.toList = blanks ++ (['.'].intercalate (kept ++ dropped) ++ rest) ∧
      (∀ c ∈ blanks, isBlank c = true) ∧
      (∀ c ∈ (['.'].intercalate (kept ++ dropped) ++ rest).head?, isBlank c = false) ∧
      kept ++ dropped ≠ [] ∧
      (∀ digits ∈ kept ++ dropped, ∀ c ∈ digits, c.isDigit = true) ∧
      (∀ c ∈ rest.head?, c.isDigit = false ∧ c ≠ '.') ∧
      (∀ digits ∈ kept, digits ≠ []) ∧ ∀ digits ∈ dropped.head?, digits = []

theorem isVersionChar_eq_true_iff {c : Char} :
    isVersionChar c = true ↔ c.isDigit = true ∨ c = '.' := by
  rw [isVersionChar, Bool.or_eq_true, beq_iff_eq]

theorem isVersionChar_eq_false_iff {c : Char} :
    isVersionChar c = false ↔ c.isDigit = false ∧ c ≠ '.' := by
  rw [isVersionChar, Bool.or_eq_false_iff, beq_eq_false_iff_ne]

theorem dot_not_mem_of_isDigit {digits : List Char} (spelled : ∀ c ∈ digits, c.isDigit = true) :
    '.' ∉ digits := by
  intro member
  have dot := spelled '.' member
  revert dot
  decide

/-- Reading finds the digit texts that a text begins with. -/
theorem digitTexts_eq_iff {text : String} {kept : List (List Char)} :
    digitTexts text = kept ↔ BeginsWith text kept := by
  constructor
  · intro found
    obtain ⟨blanks, whole, blank, visible⟩ :=
      Text.dropWhile_eq_iff.1 (rfl : Text.trimStart text.toList = Text.trimStart text.toList)
    obtain ⟨rest, split, spelled, stops⟩ := Text.takeWhile_eq_iff.1
      (rfl : (Text.trimStart text.toList).takeWhile isVersionChar = _)
    obtain ⟨dropped, parts, nonempty, empty⟩ := Text.takeWhile_eq_iff.1 found
    obtain ⟨exist, dotless, joined⟩ := Text.pieces_eq_iff.1 parts
    rw [split, joined] at whole visible
    refine ⟨blanks, dropped, rest, whole, blank, visible, exist, ?_, ?_, ?_, ?_⟩
    · -- a piece of the run holds digits and dots, and its dots are between the pieces
      intro digits member c inside
      have versionChar := spelled c (joined ▸ Text.mem_intercalate_of_mem member inside)
      refine (isVersionChar_eq_true_iff.1 versionChar).resolve_right ?_
      rintro rfl
      exact dotless digits member inside
    · intro c first
      exact isVersionChar_eq_false_iff.1 (stops c first)
    · simpa using nonempty
    · simpa using empty
  · rintro ⟨blanks, dropped, rest, whole, blank, visible, exist, spelled, stops, nonempty, empty⟩
    have dotless : ∀ digits ∈ kept ++ dropped, '.' ∉ digits := fun digits member =>
      dot_not_mem_of_isDigit (spelled digits member)
    have inside : ∀ c ∈ ['.'].intercalate (kept ++ dropped), isVersionChar c = true := by
      intro c member
      rw [isVersionChar_eq_true_iff]
      rcases Text.mem_intercalate member with dot | ⟨digits, among, inside⟩
      · exact Or.inr dot
      · exact Or.inl (spelled digits among c inside)
    have outside : ∀ c ∈ rest.head?, isVersionChar c = false := fun c first =>
      isVersionChar_eq_false_iff.2 (stops c first)
    rw [digitTexts, Text.trimStart, whole, Text.dropWhile_run blank visible,
      Text.takeWhile_run inside outside, Text.pieces_intercalate exist dotless]
    exact Text.takeWhile_run (by simpa using nonempty) (by simpa using empty)

/-! ### The numbers of a version -/

/-- The numbers that the digit texts of a text denote, however large. -/
def numbersOf (text : String) : List Nat :=
  (digitTexts text).map Text.digitsValue

theorem number?_eq_some_iff {digits : List Char} {n : Nat} :
    number? digits = some n ↔
      Text.digitsValue digits < numberBound ∧ n = Text.digitsValue digits := by
  rw [number?, Option.ite_none_right_eq_some, Option.some.injEq, eq_comm (a := n)]

theorem mapM_number?_eq_some_iff {texts : List (List Char)} {numbers : List Nat} :
    texts.mapM number? = some numbers ↔
      (∀ digits ∈ texts, Text.digitsValue digits < numberBound) ∧
        numbers = texts.map Text.digitsValue := by
  induction texts generalizing numbers with
  | nil => simp [eq_comm]
  | cons digits texts ih =>
      simp only [List.mapM_cons, Option.bind_eq_bind, Option.pure_def, Option.bind_eq_some_iff,
        Option.some.injEq, number?_eq_some_iff, ih, List.forall_mem_cons, List.map_cons]
      constructor
      · rintro ⟨n, ⟨small, rfl⟩, others, ⟨smaller, rfl⟩, rfl⟩
        exact ⟨⟨small, smaller⟩, rfl⟩
      · rintro ⟨⟨small, smaller⟩, rfl⟩
        exact ⟨_, ⟨small, rfl⟩, _, ⟨smaller, rfl⟩, rfl⟩

/-- A text holds a version exactly if it begins with a digit text and all its numbers are small
enough; the version has these numbers up to the zeros at their end. -/
theorem parse?_eq_some_iff {text : String} {v : Version} :
    parse? text = some v ↔
      (digitTexts text ≠ [] ∧ ∀ digits ∈ digitTexts text, Text.digitsValue digits < numberBound) ∧
        v = ⟨dropTrailingZeros (numbersOf text)⟩ := by
  have empty : numbersOf text = [] ↔ digitTexts text = [] := List.map_eq_nil_iff
  rw [parse?, Option.bind_eq_bind, Option.bind_eq_some_iff]
  simp only [mapM_number?_eq_some_iff, Option.ite_none_left_eq_some, Option.some.injEq]
  constructor
  · rintro ⟨numbers, ⟨small, rfl⟩, nonempty, rfl⟩
    exact ⟨⟨fun none => nonempty (empty.2 none), small⟩, rfl⟩
  · rintro ⟨⟨nonempty, small⟩, rfl⟩
    exact ⟨_, ⟨small, rfl⟩, fun none => nonempty (empty.1 none), rfl⟩

/-! ### Comparison up to zeros -/

/-- Compare two sequences of numbers, the shorter one filled up with zeros. -/
def cmpPadded (a b : List Nat) : Ordering :=
  let length := max a.length b.length
  List.compareLex compare (a.rightpad length 0) (b.rightpad length 0)

/-- The first numbers decide, unless they are equal.  A sequence that has ended goes on with
zeros. -/
theorem cmpPadded_eq (a b : List Nat) :
    cmpPadded a b = (compare (a.headD 0) (b.headD 0)).then (cmpPadded a.tail b.tail) := by
  by_cases ended : a = [] ∧ b = []
  · obtain ⟨rfl, rfl⟩ := ended
    rfl
  · have padded : ∀ (c : List Nat) (n : Nat),
        c.rightpad (n + 1) 0 = c.headD 0 :: c.tail.rightpad n 0 := by
      intro c n
      cases c with
      | nil => rfl
      | cons first rest => simp [List.rightpad]
    have longer : max a.length b.length = max a.tail.length b.tail.length + 1 := by
      rw [← List.length_eq_zero_iff, ← List.length_eq_zero_iff] at ended
      rw [List.length_tail, List.length_tail]
      omega
    rw [cmpPadded, longer, padded, padded, List.compareLex_cons_cons]
    rfl

/-- Two sequences can be taken down together, where one of them may end first. -/
theorem tails_induction {motive : List Nat → List Nat → Prop} (ended : motive [] [])
    (step : ∀ a b, motive a.tail b.tail → motive a b) (a b : List Nat) : motive a b := by
  induction a generalizing b with
  | nil =>
      induction b with
      | nil => exact ended
      | cons n rest ih => exact step [] (n :: rest) ih
  | cons n rest ih => exact step (n :: rest) b (ih b.tail)

/-- A number in front of others, unless it is a zero at the end. -/
def prepend (n : Nat) (rest : List Nat) : List Nat :=
  if n = 0 ∧ rest = [] then [] else n :: rest

theorem rdropWhile_zero_eq (a : List Nat) :
    a.rdropWhile (· = 0) = prepend (a.headD 0) (a.tail.rdropWhile (· = 0)) := by
  cases a with
  | nil => rfl
  | cons n rest =>
      rw [List.rdropWhile, List.reverse_cons, List.dropWhile_append, prepend, List.rdropWhile]
      by_cases zeros : rest.reverse.dropWhile (· = 0) = []
      · by_cases zero : n = 0 <;> simp [zeros, zero]
      · simp [zeros]

theorem cmpNumbers_nil_prepend {m : Nat} {b : List Nat} (more : ¬(m = 0 ∧ b = [])) :
    (compare 0 m).then (cmpNumbers [] b) = .lt := by
  by_cases zero : m = 0
  · obtain ⟨next, rest, rfl⟩ := List.exists_cons_of_ne_nil fun none => more ⟨zero, none⟩
    rw [zero]
    rfl
  · rw [Nat.compare_eq_lt.2 (Nat.pos_of_ne_zero zero)]
    rfl

/-- A number in front decides a comparison first, and zeros at the end are no part of it. -/
theorem cmpNumbers_prepend (n m : Nat) (a b : List Nat) :
    cmpNumbers (prepend n a) (prepend m b) = (compare n m).then (cmpNumbers a b) := by
  rw [prepend, prepend]
  -- a sequence of zeros is left out, and it is lesser than every other one
  split
  next left =>
    obtain ⟨rfl, rfl⟩ := left
    split
    next right =>
      obtain ⟨rfl, rfl⟩ := right
      rfl
    next right => exact (cmpNumbers_nil_prepend right).symm
  next left =>
    split
    next right =>
      obtain ⟨rfl, rfl⟩ := right
      have swapped : cmpNumbers a [] = (cmpNumbers [] a).swap := Std.OrientedCmp.eq_swap
      rw [swapped, ← Nat.compare_swap, ← Ordering.swap_then, cmpNumbers_nil_prepend left]
      rfl
    next => rfl

theorem cmpNumbers_rdropWhile (a b : List Nat) :
    cmpNumbers (a.rdropWhile (· = 0)) (b.rdropWhile (· = 0)) = cmpPadded a b := by
  induction a, b using tails_induction with
  | ended => rfl
  | step a b ih =>
      rw [rdropWhile_zero_eq a, rdropWhile_zero_eq b, cmpNumbers_prepend, ih, ← cmpPadded_eq]

/-- Zeros at the end make no difference to comparisons. -/
theorem cmpNumbers_dropTrailingZeros {a b : List Nat} (left : a ≠ []) (right : b ≠ []) :
    cmpNumbers (dropTrailingZeros a) (dropTrailingZeros b) = cmpPadded a b := by
  obtain ⟨n, a, rfl⟩ := List.exists_cons_of_ne_nil left
  obtain ⟨m, b, rfl⟩ := List.exists_cons_of_ne_nil right
  rw [cmpPadded_eq]
  show (compare n m).then (cmpNumbers (a.rdropWhile (· = 0)) (b.rdropWhile (· = 0))) =
    (compare n m).then (cmpPadded a b)
  rw [cmpNumbers_rdropWhile]

/-- Sequences compare equal exactly if they differ in zeros at the end only. -/
theorem cmpPadded_eq_eq_iff {a b : List Nat} :
    cmpPadded a b = .eq ↔ ∃ common zeros zeros',
      a = common ++ List.replicate zeros 0 ∧ b = common ++ List.replicate zeros' 0 := by
  rw [cmpPadded, Std.LawfulEqCmp.compare_eq_iff_eq, List.rightpad, List.rightpad]
  constructor
  · intro same
    -- one sequence is the other one and more of the zeros that were filled in
    rcases List.append_eq_append_iff.1 same with ⟨more, rfl, filled⟩ | ⟨more, rfl, filled⟩
    · have zeros := (List.append_eq_replicate_iff.1 filled.symm).2.1
      exact ⟨a, 0, more.length, (List.append_nil a).symm, congrArg (a ++ ·) zeros⟩
    · have zeros := (List.append_eq_replicate_iff.1 filled.symm).2.1
      exact ⟨b, more.length, 0, congrArg (b ++ ·) zeros, (List.append_nil b).symm⟩
  · rintro ⟨common, zeros, zeros', rfl, rfl⟩
    simp only [List.append_assoc, List.replicate_append_replicate, List.length_append,
      List.length_replicate]
    congr 2
    omega

theorem cmpPadded_concat_one (a : List Nat) : cmpPadded (a ++ [1]) a = .gt := by
  induction a with
  | nil => rfl
  | cons n a ih =>
      rw [cmpPadded_eq]
      show (compare n n).then (cmpPadded (a ++ [1]) a) = .gt
      rw [ih, Nat.compare_eq_eq.2 rfl]
      rfl

/-- A sequence in which no number is greater than the one in its place is not the greater one. -/
theorem cmpPadded_isLE_of_forall_le {a b : List Nat} (le : ∀ i, a.getD i 0 ≤ b.getD i 0) :
    (cmpPadded a b).isLE = true := by
  induction a, b using tails_induction with
  | ended => rfl
  | step a b ih =>
      have first : a.headD 0 ≤ b.headD 0 := by
        have here := le 0
        cases a <;> cases b <;> exact here
      have later : ∀ i, a.tail.getD i 0 ≤ b.tail.getD i 0 := by
        intro i
        have there := le (i + 1)
        cases a <;> cases b <;> exact there
      rw [cmpPadded_eq, Ordering.isLE_then_iff_or, Nat.compare_eq_lt, Nat.compare_eq_eq]
      rcases Nat.lt_or_eq_of_le first with less | same
      · exact Or.inl less
      · exact Or.inr ⟨same, ih later⟩

theorem cmp_of_parse? {a b : String} {v w : Version} (left : parse? a = some v)
    (right : parse? b = some w) : v.cmp w = cmpPadded (numbersOf a) (numbersOf b) := by
  obtain ⟨⟨nonempty, -⟩, rfl⟩ := parse?_eq_some_iff.1 left
  obtain ⟨⟨nonempty', -⟩, rfl⟩ := parse?_eq_some_iff.1 right
  have left : numbersOf a ≠ [] := fun none => nonempty (List.map_eq_nil_iff.1 none)
  have right : numbersOf b ≠ [] := fun none => nonempty' (List.map_eq_nil_iff.1 none)
  exact cmpNumbers_dropTrailingZeros left right

theorem satisfies_eq_false_iff {available requested : String} :
    satisfies available requested = false ↔
      ∃ v w, parse? available = some v ∧ parse? requested = some w ∧ v.cmp w = .gt := by
  rw [satisfies]
  cases parse? requested with
  | none => simp
  | some w =>
      cases parse? available with
      | none => simp
      | some v => cases order : v.cmp w <;> simp [order]

/-- **Versions are compared with zeros filled in.**  A text holds a version exactly if at least
one digit text stands at its beginning and all of them denote numbers of 32 bits.  Versions are
ordered as the sequences of these numbers, the shorter one filled up with zeros, so they compare
equal exactly if the sequences differ in zeros at the end only.  A version fails to serve a
request exactly if both texts hold versions and it is the greater one. -/
theorem parse?_cmp_satisfies_padded :
    (∀ text kept, BeginsWith text kept ↔ kept = digitTexts text) ∧
    (∀ text, (∃ v, parse? text = some v) ↔
      digitTexts text ≠ [] ∧ ∀ digits ∈ digitTexts text, Text.digitsValue digits < 0x100000000) ∧
    ∀ available requested,
      (∀ v w, parse? available = some v → parse? requested = some w →
        v.cmp w = cmpPadded (numbersOf available) (numbersOf requested) ∧
        (v.cmp w = .eq ↔ ∃ common zeros zeros',
          numbersOf available = common ++ List.replicate zeros 0 ∧
            numbersOf requested = common ++ List.replicate zeros' 0)) ∧
      (satisfies available requested = false ↔
        (∃ v, parse? available = some v) ∧ (∃ w, parse? requested = some w) ∧
          cmpPadded (numbersOf available) (numbersOf requested) = .gt) := by
  refine ⟨fun text kept => ?_, fun text => ?_, fun available requested => ⟨?_, ?_⟩⟩
  · rw [← digitTexts_eq_iff, eq_comm]
  · simp only [parse?_eq_some_iff, exists_and_left, exists_eq, and_true]
    rfl
  · intro v w left right
    rw [← cmpPadded_eq_eq_iff, ← cmp_of_parse? left right]
    exact ⟨rfl, Iff.rfl⟩
  · rw [satisfies_eq_false_iff]
    constructor
    · rintro ⟨v, w, left, right, greater⟩
      rw [cmp_of_parse? left right] at greater
      exact ⟨⟨v, left⟩, ⟨w, right⟩, greater⟩
    · rintro ⟨⟨v, left⟩, ⟨w, right⟩, greater⟩
      rw [← cmp_of_parse? left right] at greater
      exact ⟨v, w, left, right, greater⟩

/-- Zeros in front of a number and behind the last one make no difference, and neither does what
comes behind an empty digit text. -/
theorem parse?_cmp_satisfies_padded_zeros :
    numbersOf " 2.010..7" = [2, 10] ∧ numbersOf "2.10.0.0 as Controls" = [2, 10, 0, 0] ∧
      ∃ v w, parse? " 2.010..7" = some v ∧ parse? "2.10.0.0 as Controls" = some w ∧
        v.cmp w = .eq := by
  have left : parse? " 2.010..7" = some ⟨[2, 10]⟩ := by decide +kernel
  have right : parse? "2.10.0.0 as Controls" = some ⟨[2, 10]⟩ := by decide +kernel
  have numbers : numbersOf " 2.010..7" = [2, 10] := by decide +kernel
  have numbers' : numbersOf "2.10.0.0 as Controls" = [2, 10, 0, 0] := by decide +kernel
  refine ⟨numbers, numbers', _, _, left, right, ?_⟩
  exact ((parse?_cmp_satisfies_padded.2.2 _ _).1 _ _ left right).2.2
    ⟨[2, 10], 0, 2, numbers, numbers'⟩

end Version

end QmlAssist
