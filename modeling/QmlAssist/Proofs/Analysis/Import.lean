import Mathlib.Data.List.TakeWhile
import QmlAssist.Analysis.Import
import QmlAssist.Proofs.Text.Occurrence

/-!
# How imports are read across line ends

An import is one match of the word `import` and of the rest of a line, but that line
need not be the line of the word.  A text that ends with the bare word leaves an import
open, and then the first line below it that is not blank is read as its path, whatever
it was meant to be.  This module says what is found in a text of two parts: the imports
of the upper part, and then those of the lower part, read on its own or resumed.

## Main Definitions

* `Import.ofLine` — the import that the rest of a line names.
* `Import.resumed` — the imports of a text above which an import is open.
* `Import.endsOpen` — whether a text leaves an import open.

## Main Statements

* `Import.all_append` — the imports of a text of two parts.
-/

namespace QmlAssist.Import

open Text

/-! ### The rest of a line -/

/-- Gaps are blanks inside a line. -/
theorem isBlank_isLineEnd_of_isGap {c : Char} (gap : isGap c = true) :
    isBlank c = true ∧ isLineEnd c = false := by
  rw [isGap, Bool.or_eq_true, beq_iff_eq, beq_iff_eq] at gap
  rcases gap with rfl | rfl
  · decide
  · decide

/-- The import that the rest of a line names: a path, and the clause behind it. -/
def ofLine (line : List Char) : Import :=
  let path := dottedRun false line
  ⟨String.ofList (dropFinalDot path),
    String.ofList (((line.drop path.length).dropWhile isGap).takeWhile (!isLineEnd ·))⟩

theorem dottedRun_isPrefix (dotMayFollow : Bool) (line : List Char) :
    dottedRun dotMayFollow line <+: line := by
  induction line generalizing dotMayFollow with
  | nil => exact List.prefix_refl _
  | cons c line ih =>
      rw [dottedRun]
      split
      · exact List.cons_prefix_cons.2 ⟨rfl, ih true⟩
      · split
        · exact List.cons_prefix_cons.2 ⟨rfl, ih false⟩
        · exact List.nil_prefix

/-- A path does not reach into the next line. -/
theorem isLineEnd_of_mem_dottedRun {dotMayFollow : Bool} {line : List Char} {c : Char}
    (member : c ∈ dottedRun dotMayFollow line) : isLineEnd c = false := by
  induction line generalizing dotMayFollow with
  | nil => exact absurd member List.not_mem_nil
  | cons d line ih =>
      rw [dottedRun] at member
      split at member
      next name =>
        rcases List.mem_cons.1 member with rfl | further
        · rw [isLineEnd, Bool.or_eq_false_iff, beq_eq_false_iff_ne, beq_eq_false_iff_ne]
          constructor
          · rintro rfl
            exact absurd name (by decide)
          · rintro rfl
            exact absurd name (by decide)
        · exact ih further
      next =>
        split at member
        next dot =>
          rcases List.mem_cons.1 member with rfl | further
          · rw [Bool.and_eq_true, decide_eq_true_eq] at dot
            rw [dot.1]
            decide
          · exact ih further
        next => exact absurd member List.not_mem_nil

/-- Path, gap and clause take up what is left of the line. -/
theorem takeWhile_lineEnd_eq (line : List Char) :
    let path := dottedRun false line
    let afterPath := line.drop path.length
    line.takeWhile (!isLineEnd ·) =
      path ++ (afterPath.takeWhile isGap ++
        (afterPath.dropWhile isGap).takeWhile (!isLineEnd ·)) := by
  intro path afterPath
  have split : line = path ++ afterPath :=
    (List.prefix_iff_eq_append.1 (dottedRun_isPrefix false line)).symm
  have pathInLine : ∀ c ∈ path, (!isLineEnd c) = true := by
    intro c member
    rw [isLineEnd_of_mem_dottedRun member, Bool.not_false]
  have gapInLine : ∀ c ∈ afterPath.takeWhile isGap, (!isLineEnd c) = true := by
    intro c member
    rw [(isBlank_isLineEnd_of_isGap (List.mem_takeWhile_imp member)).2, Bool.not_false]
  -- neither the path nor the gap holds a line end, so the line ends with the clause
  calc line.takeWhile (!isLineEnd ·)
      = (path ++ (afterPath.takeWhile isGap ++ afterPath.dropWhile isGap)).takeWhile
          (!isLineEnd ·) := by rw [List.takeWhile_append_dropWhile, ← split]
    _ = _ := by
        rw [List.takeWhile_append_of_pos pathInLine, List.takeWhile_append_of_pos gapInLine]

/-! ### The pattern -/

/-- An import is recognised at the word `import` if blanks and then a path follow. -/
theorem pattern_eq (before cs : List Char) :
    pattern before cs = (dropWord? "import".toList cs).bind fun afterWord =>
      let line := afterWord.dropWhile isBlank
      if atNameStart before = false ∨ afterWord.takeWhile isBlank = [] ∨ dottedRun false line = []
      then none
      else some (ofLine line, "import".toList.length + (afterWord.takeWhile isBlank).length +
        (line.takeWhile (!isLineEnd ·)).length) := by
  rw [pattern]
  cases dropWord? "import".toList cs with
  | none => rfl
  | some afterWord =>
      have taken := congrArg List.length (takeWhile_lineEnd_eq (afterWord.dropWhile isBlank))
      simp only [Option.bind_eq_bind, Option.bind_some, ← List.drop_drop, drop_length_takeWhile]
      refine if_congr Iff.rfl rfl ?_
      simp only [List.length_append] at taken
      rw [taken, ofLine]
      simp only [Option.some.injEq, Prod.mk.injEq, true_and]
      omega

theorem pattern_isLocal : pattern.IsLocal := by
  intro before before' cs same
  rw [pattern_eq, pattern_eq, same]

/-- An import takes up some of the text at its place. -/
theorem length_le_of_pattern {before cs : List Char} {found : Import × Nat}
    (recognised : pattern before cs = some found) : found.2 ≤ cs.length := by
  rw [pattern_eq, Option.bind_eq_some_iff] at recognised
  obtain ⟨afterWord, word, rest⟩ := recognised
  simp only [Option.ite_none_left_eq_some, Option.some.injEq] at rest
  obtain ⟨-, rfl⟩ := rest
  have blanks := congrArg List.length
    (List.takeWhile_append_dropWhile (p := isBlank) (l := afterWord))
  have line := (List.takeWhile_prefix (l := afterWord.dropWhile isBlank)
    (!isLineEnd ·)).length_le
  rw [List.length_append] at blanks
  rw [eq_append_of_dropWord? word, List.length_append]
  show _ + _ + _ ≤ _ + _
  omega

/-- An import begins with the first letter of `import`. -/
theorem pattern_of_ne {c : Char} (other : c ≠ 'i') (before rest : List Char) :
    pattern before (c :: rest) = none := by
  have wordless : dropWord? "import".toList (c :: rest) = none := by
    simp [dropWord?, Ne.symm other]
  rw [pattern_eq, wordless, Option.bind_none]

/-! ### Line ends below a text -/

theorem dottedRun_append (dotMayFollow : Bool) (line below : List Char) :
    dottedRun dotMayFollow (line ++ '\n' :: below) = dottedRun dotMayFollow line := by
  induction line generalizing dotMayFollow with
  | nil =>
      have feed : isNameChar '\n' = false := by decide
      simp [dottedRun, feed]
  | cons c line ih => rw [List.cons_append, dottedRun, dottedRun, ih, ih]

/-- What stands below a line is not part of the import that the line names. -/
theorem ofLine_append (line below : List Char) : ofLine (line ++ '\n' :: below) = ofLine line := by
  have path := dottedRun_append false line below
  have short := (dottedRun_isPrefix false line).length_le
  simp only [ofLine, path, List.drop_append_of_le_length short]
  rw [dropWhile_append_stop (by decide), takeWhile_append_stop (by decide)]

/-- Whether a text is the word `import`, at the start of a name, with nothing but blanks
behind it. -/
def startsOpen (before cs : List Char) : Bool :=
  atNameStart before && (dropWord? "import".toList cs).any (·.all isBlank)

theorem startsOpen_eq_true_iff {before cs : List Char} :
    startsOpen before cs = true ↔ atNameStart before = true ∧
      ∃ blanks, cs = "import".toList ++ blanks ∧ ∀ c ∈ blanks, isBlank c = true := by
  rw [startsOpen, Bool.and_eq_true, Option.any_eq_true]
  refine and_congr_right fun _ => ⟨?_, ?_⟩
  · rintro ⟨blanks, word, blank⟩
    exact ⟨blanks, eq_append_of_dropWord? word, List.all_eq_true.1 blank⟩
  · rintro ⟨blanks, rfl, blank⟩
    exact ⟨blanks, by simp [dropWord?], List.all_eq_true.2 blank⟩

/-- Nothing is recognised at a word that is left open. -/
theorem pattern_of_startsOpen {before cs : List Char} (isOpen : startsOpen before cs = true) :
    pattern before cs = none := by
  obtain ⟨-, blanks, rfl, blank⟩ := startsOpen_eq_true_iff.1 isOpen
  have nothing : blanks.dropWhile isBlank = [] := List.dropWhile_eq_nil_iff.2 blank
  have word : dropWord? "import".toList ("import".toList ++ blanks) = some blanks := by
    simp [dropWord?]
  rw [pattern_eq, word, Option.bind_some, nothing]
  simp [dottedRun]

/-- Where no import is left open, the next line does not matter. -/
theorem pattern_append {before cs : List Char} (closed : startsOpen before cs = false)
    (below : List Char) : pattern before (cs ++ '\n' :: below) = pattern before cs := by
  rw [pattern_eq, pattern_eq, dropWord?_append (by decide)]
  cases found : dropWord? "import".toList cs with
  | none => rfl
  | some afterWord =>
      rw [Option.map_some, Option.bind_some, Option.bind_some]
      by_cases starts : atNameStart before = true
      · -- the blanks end before the line does, so path and clause are found above the line end
        have visible : afterWord.all isBlank = false := by
          rwa [startsOpen, starts, found, Bool.true_and, Option.any_some] at closed
        obtain ⟨blanks, c, rest, rfl, blank, seen⟩ := exists_visible visible
        have stops : ∀ further : List Char, ∀ d ∈ (c :: further).head?, isBlank d = false := by
          intro further d first
          obtain rfl : c = d := by simpa using first
          exact seen
        rw [List.append_assoc, List.cons_append, takeWhile_run blank (stops _),
          takeWhile_run blank (stops _), dropWhile_run blank (stops _),
          dropWhile_run blank (stops _), ← List.cons_append]
        simp only [dottedRun_append, ofLine_append]
        rw [takeWhile_append_stop (by decide)]
      · simp [starts]

/-! ### Imports that are left open -/

/-- The imports of a text in front of which nothing matters. -/
def allFrom (cs : List Char) : List Import :=
  occurrencesAfter pattern [] 0 cs

/-- The imports of a text above which an import is open: its first line that is not blank
is read as a path and a clause if it can be. -/
def resumed (below : List Char) : List Import :=
  let line := below.dropWhile isBlank
  if dottedRun false line = [] then allFrom below
  else ofLine line :: allFrom (line.dropWhile (!isLineEnd ·))

/-- Whether the search comes to a word `import` with nothing but blanks behind it. -/
def endsOpenAfter (before : List Char) : Nat → List Char → Bool
  | _, [] => false
  | skip + 1, c :: rest => endsOpenAfter (c :: before) skip rest
  | 0, c :: rest =>
      match pattern before (c :: rest) with
      | some (_, length) => endsOpenAfter (c :: before) (length - 1) rest
      | none => startsOpen before (c :: rest) || endsOpenAfter (c :: before) 0 rest

/-- The search starts anew where a name may start. -/
theorem occurrencesAfter_eq_allFrom {before : List Char} (starts : atNameStart before = true)
    (cs : List Char) : occurrencesAfter pattern before 0 cs = allFrom cs :=
  occurrencesAfter_congr pattern_isLocal starts 0 cs

/-- The search starts anew at a line end. -/
theorem occurrencesAfter_of_lineEnd {cs : List Char} (ends : ∀ c ∈ cs.head?, isLineEnd c = true)
    (before : List Char) : occurrencesAfter pattern before 0 cs = allFrom cs := by
  cases cs with
  | nil => rfl
  | cons c cs =>
      have lineEnd := ends c rfl
      have other : c ≠ 'i' := by
        rintro rfl
        exact absurd lineEnd (by decide)
      -- behind the line end the text in front of it is out of sight
      have same : atNameStart (c :: before) = atNameStart [c] := rfl
      rw [allFrom, occurrencesAfter, occurrencesAfter, pattern_of_ne other, pattern_of_ne other]
      exact occurrencesAfter_congr pattern_isLocal same 0 cs

/-- A line feed ends what stands above it. -/
theorem occurrencesAfter_feed (before below : List Char) :
    occurrencesAfter pattern before 0 ('\n' :: below) = allFrom below := by
  have feed : atNameStart ('\n' :: before) = true := by
    rw [atNameStart_cons]
    decide
  rw [occurrencesAfter, pattern_of_ne (by decide)]
  exact occurrencesAfter_eq_allFrom feed below

/-- Behind the word `import` and blanks, nothing else begins before the path. -/
theorem passes_open {before blanks rest : List Char} (blank : ∀ c ∈ blanks, isBlank c = true)
    (nothing : pattern before ("import".toList ++ (blanks ++ rest)) = none) :
    Passes pattern before ("import".toList ++ blanks) rest := by
  have word : "import".toList = 'i' :: "mport".toList := by decide
  rw [word, List.cons_append] at nothing ⊢
  refine Passes.cons ?_ (Passes.of_forall ?_ _ _)
  · rwa [List.append_assoc]
  · intro c member before rest
    refine pattern_of_ne ?_ before rest
    rintro rfl
    rcases List.mem_append.1 member with inWord | inBlanks
    · exact absurd inWord (by decide)
    · exact absurd (blank 'i' inBlanks) (by decide)

/-- A word `import` with blanks behind it is resumed below them. -/
theorem occurrencesAfter_open {before blanks : List Char} (starts : atNameStart before = true)
    (nonempty : blanks ≠ []) (blank : ∀ c ∈ blanks, isBlank c = true) (rest : List Char) :
    occurrencesAfter pattern before 0 ("import".toList ++ (blanks ++ rest)) = resumed rest := by
  have word : dropWord? "import".toList ("import".toList ++ (blanks ++ rest)) =
      some (blanks ++ rest) := by
    simp [dropWord?]
  have recognised := pattern_eq before ("import".toList ++ (blanks ++ rest))
  rw [word, Option.bind_some, List.takeWhile_append_of_pos blank,
    List.dropWhile_append_of_pos blank] at recognised
  rw [resumed]
  by_cases pathless : dottedRun false (rest.dropWhile isBlank) = []
  · -- nothing is recognised, and the search comes to the rest behind a blank
    have nothing : pattern before ("import".toList ++ (blanks ++ rest)) = none := by
      simp only [recognised, pathless, or_true, if_true]
    have atStart : atNameStart (("import".toList ++ blanks).reverse ++ before) = true := by
      obtain ⟨front, c, rfl⟩ := (List.eq_nil_or_concat blanks).resolve_left nonempty
      simp [isNameChar_of_isBlank (blank c (by simp))]
    rw [if_pos pathless, ← List.append_assoc, occurrencesAfter_passed (passes_open blank nothing),
      occurrencesAfter_eq_allFrom atStart]
  · -- the match takes up the blanks on both sides of the border and the rest of a line
    obtain ⟨taken, takenEq⟩ : ∃ taken, taken = "import".toList ++ (blanks ++
        (rest.takeWhile isBlank ++ (rest.dropWhile isBlank).takeWhile (!isLineEnd ·))) := ⟨_, rfl⟩
    have whole : "import".toList ++ (blanks ++ rest) =
        taken ++ (rest.dropWhile isBlank).dropWhile (!isLineEnd ·) := by
      simp only [takenEq, List.append_assoc, List.takeWhile_append_dropWhile]
    have found : pattern before ("import".toList ++ (blanks ++ rest)) =
        some (ofLine (rest.dropWhile isBlank), taken.length) := by
      have accepted : ¬(atNameStart before = false ∨ blanks ++ rest.takeWhile isBlank = [] ∨
          dottedRun false (rest.dropWhile isBlank) = []) := by
        simp [starts, nonempty, pathless]
      rw [recognised, if_neg accepted, takenEq]
      simp only [List.length_append, Nat.add_assoc]
    have nonempty' : taken ≠ [] := by
      rw [takenEq]
      simp
    have ends : ∀ c ∈ ((rest.dropWhile isBlank).dropWhile (!isLineEnd ·)).head?,
        isLineEnd c = true := by
      intro c first
      have stops := List.head?_dropWhile_not (!isLineEnd ·) (rest.dropWhile isBlank)
      rw [Option.mem_def.1 first] at stops
      simpa using stops
    rw [whole] at found
    rw [if_neg pathless, whole, occurrencesAfter_found nonempty' found,
      occurrencesAfter_of_lineEnd ends]

/-- A word that is left open is no import of its own. -/
theorem occurrencesAfter_of_startsOpen {before cs : List Char}
    (isOpen : startsOpen before cs = true) : occurrencesAfter pattern before 0 cs = [] := by
  have nothing := pattern_of_startsOpen isOpen
  obtain ⟨-, blanks, rfl, blank⟩ := startsOpen_eq_true_iff.1 isOpen
  rw [← List.append_nil blanks] at nothing
  have passed := occurrencesAfter_passed (passes_open blank nothing)
  rw [List.append_nil] at passed
  rw [passed]
  rfl

/-- A word that is left open is resumed on the next line. -/
theorem occurrencesAfter_startsOpen_append {before cs : List Char}
    (isOpen : startsOpen before cs = true) (below : List Char) :
    occurrencesAfter pattern before 0 (cs ++ '\n' :: below) = resumed below := by
  obtain ⟨starts, blanks, rfl, blank⟩ := startsOpen_eq_true_iff.1 isOpen
  have blank' : ∀ c ∈ blanks ++ ['\n'], isBlank c = true := by
    intro c member
    rcases List.mem_append.1 member with inFront | feed
    · exact blank c inFront
    · rw [List.mem_singleton.1 feed]
      decide
  have regrouped : "import".toList ++ blanks ++ '\n' :: below =
      "import".toList ++ ((blanks ++ ['\n']) ++ below) := by
    simp only [List.append_assoc, List.singleton_append]
  rw [regrouped, occurrencesAfter_open starts (by simp) blank']

/-- The imports of a text of two parts are those of the upper part, followed by those of
the lower part, which are resumed if the upper part leaves an import open.  The induction
follows the search, so what an import takes up has to lie in the upper part. -/
theorem occurrencesAfter_append {skip : Nat} {above : List Char} (inside : skip ≤ above.length)
    (before below : List Char) :
    occurrencesAfter pattern before skip (above ++ '\n' :: below) =
      occurrencesAfter pattern before skip above ++
        (if endsOpenAfter before skip above then resumed below else allFrom below) := by
  induction above generalizing before skip with
  | nil =>
      obtain rfl : skip = 0 := Nat.le_zero.1 inside
      exact occurrencesAfter_feed before below
  | cons c above ih =>
      cases skip with
      | succ skip => exact ih (Nat.le_of_succ_le_succ inside) (c :: before)
      | zero =>
          cases isOpen : startsOpen before (c :: above) with
          | false =>
              rw [List.cons_append, occurrencesAfter, occurrencesAfter, endsOpenAfter,
                ← List.cons_append, pattern_append isOpen, isOpen]
              cases found : pattern before (c :: above) with
              | none => exact ih (Nat.zero_le _) (c :: before)
              | some result =>
                  obtain ⟨value, length⟩ := result
                  have short : length ≤ above.length + 1 := length_le_of_pattern found
                  have later := ih (Nat.sub_le_of_le_add short) (c :: before)
                  simp only [later, List.cons_append]
          | true =>
              have isOpenAfter : endsOpenAfter before 0 (c :: above) = true := by
                rw [endsOpenAfter, pattern_of_startsOpen isOpen, isOpen, Bool.true_or]
              rw [occurrencesAfter_startsOpen_append isOpen, occurrencesAfter_of_startsOpen isOpen,
                isOpenAfter, if_pos rfl, List.nil_append]

/-! ### Texts of two parts -/

/-- Whether a text leaves an import open. -/
def endsOpen (text : String) : Bool :=
  endsOpenAfter [] 0 text.toList

/-- The imports of a text of two parts. -/
theorem all_append (above below : String) :
    all (above ++ "\n" ++ below) =
      all above ++ if endsOpen above then resumed below.toList else all below := by
  have parts : (above ++ "\n" ++ below).toList = above.toList ++ '\n' :: below.toList := by simp
  rw [all, occurrences, parts, occurrencesAfter_append (Nat.zero_le _)]
  rfl

/-- A name is a path of its own if neither a name nor a dot goes on behind it. -/
theorem dottedRun_name {name rest : List Char} (spelled : ∀ c ∈ name, isNameChar c = true)
    (ends : ∀ c ∈ rest.head?, isNameChar c = false ∧ c ≠ '.') (dotMayFollow : Bool) :
    dottedRun dotMayFollow (name ++ rest) = name := by
  induction name generalizing dotMayFollow with
  | nil =>
      cases rest with
      | nil => rfl
      | cons c rest =>
          obtain ⟨noName, noDot⟩ := ends c rfl
          simp [dottedRun, noName, noDot]
  | cons c name ih =>
      have here : isNameChar c = true := spelled c List.mem_cons_self
      rw [List.cons_append, dottedRun, if_pos here,
        ih (fun d member => spelled d (List.mem_cons_of_mem _ member))]

section HalfTyped

variable {gap : List Char} (blank : ∀ c ∈ gap, isGap c = true)

include blank

theorem dottedRun_halfTyped : dottedRun false ("import".toList ++ gap) = "import".toList := by
  have spelled : ∀ c ∈ "import".toList, isNameChar c = true := List.all_eq_true.1 (by decide)
  refine dottedRun_name spelled ?_ false
  intro c first
  have isGapChar := blank c (List.mem_of_head? first)
  refine ⟨isNameChar_of_isBlank (isBlank_isLineEnd_of_isGap isGapChar).1, ?_⟩
  rintro rfl
  exact absurd isGapChar (by decide)

theorem ofLine_halfTyped : ofLine ("import".toList ++ gap) = ⟨"import", ""⟩ := by
  have nothing : gap.dropWhile isGap = [] := List.dropWhile_eq_nil_iff.2 blank
  rw [ofLine]
  simp only [dottedRun_halfTyped blank, List.drop_left, nothing, List.takeWhile_nil]
  decide

/-- Below an open import, the word `import` is its path. -/
theorem resumed_halfTyped (below : List Char) :
    resumed ("import".toList ++ gap ++ '\n' :: below) = ⟨"import", ""⟩ :: allFrom below := by
  have visible : ("import".toList ++ gap ++ '\n' :: below).dropWhile isBlank =
      "import".toList ++ gap ++ '\n' :: below := by
    rw [List.append_assoc]
    exact List.dropWhile_cons_of_neg (by decide)
  have wordInLine : ∀ c ∈ "import".toList, (!isLineEnd c) = true :=
    List.all_eq_true.1 (by decide)
  have inLine : ∀ c ∈ "import".toList ++ gap, (!isLineEnd c) = true := by
    intro c member
    rcases List.mem_append.1 member with inWord | inGap
    · exact wordInLine c inWord
    · rw [(isBlank_isLineEnd_of_isGap (blank c inGap)).2, Bool.not_false]
  have stops : ∀ c ∈ ('\n' :: below).head?, (!isLineEnd c) = false := by
    intro c first
    obtain rfl : '\n' = c := by simpa using first
    decide
  rw [resumed]
  simp only [visible, dottedRun_append, dottedRun_halfTyped blank, ofLine_append,
    ofLine_halfTyped blank]
  rw [if_neg (by decide), dropWhile_run inLine stops, allFrom, occurrencesAfter_feed]

theorem allFrom_halfTyped (below : List Char) :
    allFrom ("import".toList ++ gap ++ '\n' :: below) = resumed below := by
  refine occurrencesAfter_startsOpen_append (startsOpen_eq_true_iff.2 ⟨rfl, gap, rfl, ?_⟩) below
  intro c member
  exact (isBlank_isLineEnd_of_isGap (blank c member)).1

end HalfTyped

/-- A line with the bare word `import` is an import of its own if one is open above it,
and is left open itself otherwise. -/
theorem all_append_halfTyped {gap : String} (blank : ∀ c ∈ gap.toList, isGap c = true)
    (above below : String) :
    all (above ++ "\n" ++ ("import" ++ gap ++ "\n" ++ below)) =
      all above ++
        if endsOpen above then ⟨"import", ""⟩ :: all below else resumed below.toList := by
  have line : ("import" ++ gap ++ "\n" ++ below).toList =
      "import".toList ++ gap.toList ++ '\n' :: below.toList := by simp
  rw [all_append, line, resumed_halfTyped blank]
  show _ ++ (if _ then _ else allFrom ("import" ++ gap ++ "\n" ++ below).toList) = _
  rw [line, allFrom_halfTyped blank]
  rfl

end QmlAssist.Import
