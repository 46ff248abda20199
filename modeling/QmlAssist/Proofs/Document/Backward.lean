import QmlAssist.Document.Word
import QmlAssist.Proofs.Text.Block

/-!
# What a cursor sees before it

A cursor keeps the lines above it apart.  Read backward they are one text, with a
line feed for every line end, and a search of the cursor is a search of that text:
the line feeds are passed over, since no search looks for them.

## Main Definitions

* `Cursor.backward` — the text before a cursor, nearest character first.
* `Cursor.spelled` — the same with any text for the line ends.
* `Text.searchBack` — a backward search of a text.

## Main Statements

* `Cursor.map_backward_search?` — a search of a cursor is a search of its text.
* `Cursor.enclosingWords_eq` — the words around a cursor are those on the way out of
  the blocks of its text.
-/

namespace QmlAssist

namespace Text

variable {σ : Type}

/-- Search a text backward, as `Cursor.search?` does.  The result is the text from the
character on at which the step function ends the search. -/
def searchBack (step : σ → Char → Option σ) : σ → List Char → Option (List Char)
  | _, [] => none
  | state, ch :: before =>
      match step state ch with
      | none => some (ch :: before)
      | some state => searchBack step state before

/-- A search for a kind of characters passes over all others. -/
theorem searchBack_kind (pattern : Char → Bool) (before : List Char) :
    searchBack (fun _ ch => if pattern ch then none else some ()) () before =
      if before.dropWhile (!pattern ·) = [] then none
      else some (before.dropWhile (!pattern ·)) := by
  induction before with
  | nil => rfl
  | cons ch before ih =>
      rw [searchBack]
      by_cases found : pattern ch = true
      · rw [if_pos found, List.dropWhile_cons_of_neg (by simp [found]), if_neg (by simp)]
      · rw [if_neg found, List.dropWhile_cons_of_pos (by simpa using found)]
        exact ih

/-- A search for opening braces outside closed blocks comes to the open blocks.  The
induction needs every depth: each closed block that is entered hides one open block. -/
theorem searchBack_openBlocks (depth : Nat) (before : List Char) :
    searchBack
        (fun depth ch =>
          if depth = 0 && ch == '{' then none else some (Cursor.passBrace depth ch))
        depth before =
      (openBlocks before)[depth]?.map ('{' :: ·) := by
  induction before generalizing depth with
  | nil => rfl
  | cons ch before ih =>
      rw [searchBack]
      by_cases opening : ch = '{'
      · subst opening
        cases depth with
        | zero => rfl
        | succ depth => exact ih depth
      by_cases closing : ch = '}'
      · subst closing
        rw [openBlocks_close, List.getElem?_tail]
        simpa [Cursor.passBrace] using ih (depth + 1)
      · have noBrace : isBrace ch = false := by simp [isBrace, opening, closing]
        rw [openBlocks_cons_of_not_isBrace noBrace]
        simpa [Cursor.passBrace, opening, closing] using ih depth

end Text

namespace Cursor

variable {σ : Type}

/-- The text before a cursor, nearest character first, with a line feed for every line
end. -/
def backward (c : Cursor) : List Char :=
  c.before ++ c.above.flatMap fun line => '\n' :: line.reverse

theorem searchBack_append (step : σ → Char → Option σ) (state : σ)
    (line rest further : List Char) :
    Text.searchBack step state (line ++ further) =
      match searchLine step state line rest with
      | .inl (before, _) => some (before ++ further)
      | .inr state => Text.searchBack step state further := by
  induction line generalizing state rest with
  | nil => rfl
  | cons ch line ih =>
      rw [List.cons_append, Text.searchBack, searchLine]
      cases step state ch with
      | none => rfl
      | some state => exact ih state (ch :: rest)

/-- The text before a cursor, nearest character first, with some text for every line end. -/
def spelled (ends : List Char) (c : Cursor) : List Char :=
  c.before ++ c.above.flatMap fun line => ends ++ line.reverse

section Spelled

variable {step : σ → Char → Option σ} {ends : List Char}
  (passed : ∀ state rest,
    Text.searchBack step state (ends ++ rest) = Text.searchBack step state rest)

include passed

theorem map_spelled_searchAbove (state : σ) (above : List (List Char)) :
    (searchAbove step state above).map (spelled ends) =
      Text.searchBack step state (above.flatMap fun line => ends ++ line.reverse) := by
  induction above generalizing state with
  | nil => rfl
  | cons line above ih =>
      rw [searchAbove, List.flatMap_cons, List.append_assoc, passed,
        searchBack_append step state line.reverse []]
      cases searchLine step state line.reverse [] with
      | inl found => rfl
      | inr state => exact ih state

/-- A search of a cursor is a search of the text before it, if it passes over the line
ends. -/
theorem map_spelled_search? (state : σ) (c : Cursor) :
    (c.search? step state).map (spelled ends) =
      Text.searchBack step state (c.spelled ends) := by
  rw [search?, spelled, searchBack_append step state c.before c.after]
  cases searchLine step state c.before c.after with
  | inl found => rfl
  | inr state => exact map_spelled_searchAbove passed state c.above

end Spelled

/-- A search of a cursor is a search of the text before it. -/
theorem map_backward_search? {step : σ → Char → Option σ}
    (passesFeed : ∀ state, step state '\n' = some state) (state : σ) (c : Cursor) :
    (c.search? step state).map backward = Text.searchBack step state c.backward := by
  have passed : ∀ state rest,
      Text.searchBack step state (['\n'] ++ rest) = Text.searchBack step state rest := by
    intro state rest
    rw [List.singleton_append, Text.searchBack, passesFeed]
  exact map_spelled_search? passed state c

/-! ### The words around a cursor -/

theorem backward_stepBack {c : Cursor} {ch : Char} {before : List Char}
    (line : c.before ≠ []) (text : c.backward = ch :: before) : c.stepBack.backward = before := by
  obtain ⟨above, line', after⟩ := c
  cases line' with
  | nil => exact absurd rfl line
  | cons ch' line' =>
      rw [backward, List.cons_append, List.cons.injEq] at text
      exact text.2

theorem wordBefore_eq (c : Cursor) : c.wordBefore = Text.lastWord c.backward := by
  have feed : isWordChar '\n' = false := by decide
  rw [wordBefore, Text.lastWord, backward]
  congr 2
  induction c.before with
  | nil =>
      cases c.above with
      | nil => rfl
      | cons line above => simp [feed]
  | cons ch line ih =>
      rw [List.cons_append, List.takeWhile_cons, List.takeWhile_cons, ih]

theorem map_backward_find? {pattern : Char → Bool} (notFeed : pattern '\n' = false)
    (c : Cursor) :
    (c.find? pattern).map backward =
      if c.backward.dropWhile (!pattern ·) = [] then none
      else some (c.backward.dropWhile (!pattern ·)) := by
  rw [find?, map_backward_search?, Text.searchBack_kind]
  intro state
  rw [notFeed]
  rfl

theorem map_backward_findOutsideBraces? (c : Cursor) :
    (c.findOutsideBraces? (· == '{')).map backward =
      (Text.openBlocks c.backward).head?.map ('{' :: ·) := by
  rw [findOutsideBraces?, map_backward_search?, Text.searchBack_openBlocks,
    List.head?_eq_getElem?]
  intro depth
  rw [show ('\n' == '{') = false from rfl, Bool.and_false]
  rfl

/-- The word in front of the innermost block around a cursor is the nearest word in
front of the innermost open block of its text. -/
theorem map_backward_enclosing? (c : Cursor) :
    c.enclosing?.map backward = Text.enclosing? c.backward := by
  have atBrace := map_backward_findOutsideBraces? c
  rw [enclosing?, Text.enclosing?]
  cases found : c.findOutsideBraces? (· == '{') with
  | none =>
      rw [found, Option.map_none] at atBrace
      rw [Option.map_eq_none_iff.1 atBrace.symm]
      rfl
  | some brace =>
      rw [found, Option.map_some] at atBrace
      obtain ⟨block, innermost, text⟩ := Option.map_eq_some_iff.1 atBrace.symm
      have line : brace.before ≠ [] := (size_search?_le _ _ _ _ found).1
      rw [innermost]
      show (brace.stepBack.find? isWordChar).map backward = _
      rw [map_backward_find? (by decide), backward_stepBack line text.symm]
      rfl

theorem enclosingWords_of_some {c outer : Cursor} (found : c.enclosing? = some outer) :
    c.enclosingWords = outer.wordBefore :: outer.enclosingWords := by
  rw [enclosingWords]
  split
  next ends => rw [ends] at found; cases found
  next outer' found' => rw [found, Option.some.injEq] at found'; rw [found']

theorem enclosingWords_of_none {c : Cursor} (ends : c.enclosing? = none) :
    c.enclosingWords = [] := by
  rw [enclosingWords]
  split
  · rfl
  next outer found => rw [ends] at found; cases found

/-- The words around a cursor are those on the way out of the blocks of its text. -/
theorem enclosingWords_eq (c : Cursor) :
    c.enclosingWords = (Text.climb c.backward).map Text.lastWord := by
  have step := map_backward_enclosing? c
  induction c using enclosingWords.induct with
  | case1 c ends =>
      rw [ends, Option.map_none] at step
      rw [enclosingWords_of_none ends, Text.climb_of_none step.symm, List.map_nil]
  | case2 c outer found ih =>
      rw [found, Option.map_some] at step
      rw [enclosingWords_of_some found, Text.climb_of_some step.symm, List.map_cons,
        ← ih (map_backward_enclosing? outer), ← wordBefore_eq]

end Cursor

end QmlAssist
