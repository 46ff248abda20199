import QmlAssist.Analysis.Declaration
import QmlAssist.Proofs.Text.Occurrence

/-!
# Where declarations are recognised

The search for declarations gets past a text by one law for each kind of stretch:
blanks, words in front of blocks, text in which no declaration begins, and declarations
themselves.

## Main Statements

* `Declaration.pattern_declaration` — a declaration is recognised with its name.
* `Declaration.passes_header` — the word in front of a block is no declaration.
* `Declaration.passes_filler` — neither is text in which `id` starts no name.
-/

namespace QmlAssist.Declaration

open Text

/-! ### Where no declaration begins -/

theorem pattern_of_wordless {cs : List Char} (wordless : dropWord? "id".toList cs = none)
    (before : List Char) : pattern before cs = none := by
  rw [pattern, wordless]
  rfl

/-- A declaration begins with the first letter of `id`. -/
theorem pattern_of_ne {c : Char} (other : c ≠ 'i') (before rest : List Char) :
    pattern before (c :: rest) = none := by
  refine pattern_of_wordless ?_ before
  simp [dropWord?, Ne.symm other]

/-- A declaration goes on with the second letter of `id`. -/
theorem pattern_of_head?_ne {rest : List Char} (other : rest.head? ≠ some 'd')
    (before : List Char) : pattern before ('i' :: rest) = none := by
  refine pattern_of_wordless ?_ before
  cases rest with
  | nil => simp [dropWord?]
  | cons c rest =>
      rw [List.head?_cons, ne_eq, Option.some.injEq] at other
      simp [dropWord?, Ne.symm other]

/-- No declaration begins inside a name. -/
theorem pattern_of_not_atNameStart {before : List Char} (inside : atNameStart before = false)
    (cs : List Char) : pattern before cs = none := by
  rw [pattern]
  cases dropWord? "id".toList cs with
  | none => rfl
  | some afterWord =>
      simp only [Option.bind_eq_bind, Option.bind_some]
      cases dropWord? [':'] (afterWord.drop (afterWord.takeWhile isBlank).length) with
      | none => rfl
      | some afterColon => simp [inside]

/-- A declaration has a colon as the first character behind `id` that is not blank. -/
theorem pattern_of_no_colon {blanks rest : List Char} (blank : ∀ c ∈ blanks, isBlank c = true)
    (visible : ∀ c ∈ rest.head?, isBlank c = false) (noColon : rest.head? ≠ some ':')
    (before : List Char) : pattern before ('i' :: 'd' :: (blanks ++ rest)) = none := by
  have word : dropWord? "id".toList ('i' :: 'd' :: (blanks ++ rest)) = some (blanks ++ rest) := by
    simp [dropWord?]
  have wordless : dropWord? [':'] rest = none := by
    cases rest with
    | nil => rfl
    | cons c rest =>
        have other : ':' ≠ c := by
          rintro rfl
          exact noColon rfl
        simp [dropWord?, other]
  rw [pattern, word]
  simp only [Option.bind_eq_bind, Option.bind_some, takeWhile_run blank visible,
    List.drop_left, wordless, Option.bind_none]

/-- A declaration is recognised with its name and with the place where it starts. -/
theorem pattern_declaration {before name rest : List Char} (starts : atNameStart before = true)
    (nonempty : name ≠ []) (spelled : ∀ c ∈ name, isNameChar c = true)
    (ends : ∀ c ∈ rest.head?, isNameChar c = false) :
    pattern before (("id: ".toList ++ name) ++ rest) =
      some (⟨String.ofList name, Position.after before⟩, ("id: ".toList ++ name).length) := by
  have word : dropWord? "id".toList (("id: ".toList ++ name) ++ rest) =
      some (':' :: ' ' :: (name ++ rest)) := by
    simp [dropWord?]
  have noBlanks : (':' :: ' ' :: (name ++ rest)).takeWhile isBlank = [] :=
    List.takeWhile_cons_of_neg (by decide)
  have colon : dropWord? [':'] (':' :: ' ' :: (name ++ rest)) = some (' ' :: (name ++ rest)) := by
    simp [dropWord?]
  -- the name begins behind the one blank, since name characters are not blank
  have oneBlank : (' ' :: (name ++ rest)).takeWhile isBlank = [' '] := by
    have blank : ∀ c ∈ [' '], isBlank c = true := List.all_eq_true.1 (by decide)
    show ([' '] ++ (name ++ rest)).takeWhile isBlank = [' ']
    refine takeWhile_run blank ?_
    intro c first
    obtain ⟨d, further, rfl⟩ := List.exists_cons_of_ne_nil nonempty
    obtain rfl : d = c := by simpa using first
    exact isBlank_of_isNameChar (spelled d List.mem_cons_self)
  rw [pattern, word]
  simp only [Option.bind_eq_bind, Option.bind_some, noBlanks, List.length_nil, List.drop_zero,
    colon, oneBlank, List.length_singleton, List.drop_succ_cons, takeWhile_run spelled ends]
  rw [if_neg (by simp [starts, nonempty])]
  simp
  omega

/-! ### Stretches without declarations -/

theorem passes_blanks {blanks : List Char} (blank : ∀ c ∈ blanks, isBlank c = true)
    (before rest : List Char) : Passes pattern before blanks rest := by
  refine Passes.of_forall ?_ before rest
  intro c member before rest
  refine pattern_of_ne ?_ before rest
  rintro rfl
  exact absurd (blank 'i' member) (by decide)

/-- Behind `id` in front of a block, the first character that is not blank is no colon:
it is the next character of the word or the brace. -/
theorem pattern_id_header {header gap : List Char} (spelled : ∀ c ∈ header, isNameChar c = true)
    (blank : ∀ c ∈ gap, isBlank c = true) (before rest : List Char) :
    pattern before ('i' :: 'd' :: (header ++ (gap ++ '{' :: rest))) = none := by
  cases header with
  | nil =>
      refine pattern_of_no_colon blank ?_ (by simp) before
      intro c first
      obtain rfl : '{' = c := by simpa using first
      decide
  | cons c header =>
      have name : isNameChar c = true := spelled c List.mem_cons_self
      have noBlanks : ∀ d ∈ ([] : List Char), isBlank d = true := by simp
      refine pattern_of_no_colon noBlanks ?_ ?_ before
      · intro d first
        obtain rfl : c = d := by simpa using first
        exact isBlank_of_isNameChar name
      · intro colon
        obtain rfl : c = ':' := by simpa using colon
        exact absurd name (by decide)

/-- The word in front of a block is no declaration, not even the word `id`. -/
theorem passes_header {header gap : List Char} (spelled : ∀ c ∈ header, isNameChar c = true)
    (blank : ∀ c ∈ gap, isBlank c = true) (before rest : List Char) :
    Passes pattern before header (gap ++ '{' :: rest) := by
  intro u v split nonempty
  rcases List.eq_nil_or_concat u with rfl | ⟨inner, last, rfl⟩
  · -- at the start of the word the colon is missing
    rw [List.nil_append] at split
    subst split
    obtain ⟨c, header, rfl⟩ := List.exists_cons_of_ne_nil nonempty
    by_cases first : c = 'i'
    · subst first
      rw [List.cons_append]
      by_cases second : (header ++ (gap ++ '{' :: rest)).head? = some 'd'
      · obtain ⟨header, rfl⟩ : ∃ tail, header = 'd' :: tail := by
          cases header with
          | cons d header => exact ⟨header, by simpa using second⟩
          | nil =>
              cases gap with
              | nil => exact absurd second (by simp)
              | cons d gap =>
                  obtain rfl : d = 'd' := by simpa using second
                  exact absurd (blank 'd' List.mem_cons_self) (by decide)
        refine pattern_id_header ?_ blank _ _
        intro c member
        exact spelled c (List.mem_cons_of_mem _ (List.mem_cons_of_mem _ member))
      · exact pattern_of_head?_ne second _
    · exact pattern_of_ne first _ _
  · -- behind its first character no name starts
    refine pattern_of_not_atNameStart ?_ _
    have name : isNameChar last = true := spelled last (by simp [split])
    simp [name]

/-- Text in which `id` starts no name has no declarations, whatever comes after it. -/
theorem passes_filler {filler rest : List Char}
    (idless : ∀ u v, filler = u ++ 'i' :: 'd' :: v → atNameStart u.reverse = false)
    (ends : rest.head? ≠ some 'd') (before : List Char) : Passes pattern before filler rest := by
  intro u v split nonempty
  obtain ⟨c, v, rfl⟩ := List.exists_cons_of_ne_nil nonempty
  by_cases first : c = 'i'
  · subst first
    rw [List.cons_append]
    by_cases second : v.head? = some 'd'
    · obtain ⟨v, rfl⟩ := List.head?_eq_some_iff.1 second
      have inside := idless u v split
      have further : u.reverse ≠ [] := by
        intro empty
        rw [empty] at inside
        cases inside
      refine pattern_of_not_atNameStart ?_ _
      rw [atNameStart_append further, inside]
    · refine pattern_of_head?_ne ?_ _
      cases v with
      | nil => exact ends
      | cons d v => exact second
  · exact pattern_of_ne first _ _

end QmlAssist.Declaration
