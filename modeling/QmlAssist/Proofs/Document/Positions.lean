import Mathlib.Data.Prod.Lex
import QmlAssist.Proofs.Document.Lines

/-!
# Going from position to position

A search of a cursor leads to another cursor.  A caller that goes on from there may keep the
position only and ask the document for the cursor again, as it does when the outcome of one
search is the start of the next.  This module shows that nothing is lost in this way, and that
every search leads backward in the order of positions.

## Main Definitions

* `Cursor.IsIn` — a cursor stands in a document.

## Main Statements

* `Cursor.search?_cases` — where a search can lead.
* `Cursor.position_search?_le` — a search leads backward, or nowhere.
* `Cursor.IsIn.cursor_position` — a cursor is recovered from its position.
* `Cursor.find?_of_line` — what a search finds on the line of its cursor.

## Design Notes

Positions are ordered by lines, and on one line by columns.  The number of a line is the number
of lines above, so a search that leaves the line of its cursor leads to an earlier position
whatever the columns are.
-/

namespace QmlAssist

/-! ### The order of positions -/

namespace Position

/-- Positions in the order in which a document is read. -/
instance : LinearOrder Position :=
  LinearOrder.lift' (fun p => toLex (p.line, p.character)) <| by
    rintro ⟨line, character⟩ ⟨line', character'⟩ same
    obtain ⟨rfl, rfl⟩ := Prod.mk.inj (toLex.injective same)
    rfl

theorem lt_iff {p q : Position} :
    p < q ↔ p.line < q.line ∨ p.line = q.line ∧ p.character < q.character :=
  Prod.Lex.lt_iff

theorem before_iff {p q : Position} : p.Before q ↔ p < q :=
  lt_iff.symm

theorem le_iff {p q : Position} :
    p ≤ q ↔ p.line < q.line ∨ p.line = q.line ∧ p.character ≤ q.character :=
  Prod.Lex.le_iff

theorem origin_le (p : Position) : origin ≤ p := by
  rw [le_iff]
  rcases Nat.eq_zero_or_pos p.line with first | later
  · exact Or.inr ⟨first.symm, Nat.zero_le _⟩
  · exact Or.inl later

instance : WellFoundedLT Position where
  wf := InvImage.wf (fun p : Position => toLex (p.line, p.character)) wellFounded_lt

/-- The nearest position inside a document is never behind the position itself. -/
theorem clamp_le (d : Document) (p : Position) : d.clamp p ≤ p := by
  rw [le_iff]
  by_cases past : d.lineCount - 1 < p.line
  · refine Or.inl ?_
    rw [Document.clamp, if_pos past]
    exact past
  · refine Or.inr ?_
    rw [Document.clamp, if_neg past]
    exact ⟨rfl, Nat.min_le_left _ _⟩

end Position

theorem Document.getElem?_lines {d : Document} {n : Nat} (inside : n < d.lineCount) :
    d.lines[n]? = some (d.line n) := by
  have bound : n < d.lines.length := inside
  rw [line, List.getElem?_eq_getElem bound, Option.getD_some]

namespace Cursor

variable {σ : Type} {step : σ → Char → Option σ} {state : σ} {c found : Cursor}

/-! ### Where a search leads -/

theorem searchLine_eq_inl {line rest before after : List Char}
    (search : searchLine step state line rest = .inl (before, after)) :
    before.reverse ++ after = line.reverse ++ rest ∧ before.length ≤ line.length := by
  induction line generalizing state rest with
  | nil => cases search
  | cons ch line ih =>
      rw [searchLine] at search
      split at search
      next =>
        obtain ⟨rfl, rfl⟩ := Prod.mk.inj (Sum.inl.inj search)
        exact ⟨rfl, le_rfl⟩
      next =>
        obtain ⟨same, shorter⟩ := ih search
        refine ⟨?_, Nat.le_succ_of_le shorter⟩
        rw [same, List.reverse_cons, List.append_assoc, List.singleton_append]

theorem searchAbove_eq_some {above : List (List Char)}
    (search : searchAbove step state above = some found) :
    ∃ below, above.reverse =
      found.above.reverse ++ (found.before.reverse ++ found.after) :: below := by
  induction above generalizing state with
  | nil => cases search
  | cons line above ih =>
      rw [searchAbove] at search
      split at search
      next before after inLine =>
        obtain rfl := Option.some.inj search
        refine ⟨[], ?_⟩
        rw [(searchLine_eq_inl inLine).1, List.reverse_reverse, List.append_nil, List.reverse_cons]
      next =>
        obtain ⟨below, above_eq⟩ := ih search
        refine ⟨below ++ [line], ?_⟩
        rw [List.reverse_cons, above_eq, List.append_assoc, List.cons_append]

/-- A search leads to an earlier place of the line, or to a line above. -/
theorem search?_cases (search : c.search? step state = some found) :
    (found.above = c.above ∧ found.before.length ≤ c.before.length ∧
      found.before.reverse ++ found.after = c.before.reverse ++ c.after) ∨
    ∃ below, c.above.reverse =
      found.above.reverse ++ (found.before.reverse ++ found.after) :: below := by
  rw [search?] at search
  split at search
  next before after inLine =>
    obtain rfl := Option.some.inj search
    obtain ⟨same, shorter⟩ := searchLine_eq_inl inLine
    exact Or.inl ⟨rfl, shorter, same⟩
  next => exact Or.inr (searchAbove_eq_some search)

/-- A search leads backward, or nowhere. -/
theorem position_search?_le (search : c.search? step state = some found) :
    found.position ≤ c.position := by
  rw [Position.le_iff]
  rcases search?_cases search with ⟨above, shorter, -⟩ | ⟨below, above⟩
  · exact Or.inr ⟨congrArg List.length above, shorter⟩
  · have count := congrArg List.length above
    rw [List.length_append, List.length_cons, List.length_reverse, List.length_reverse] at count
    refine Or.inl ?_
    show found.above.length < c.above.length
    omega

theorem position_stepBack (c : Cursor) :
    c.stepBack.position = ⟨c.position.line, c.position.character - 1⟩ := by
  obtain ⟨above, before, after⟩ := c
  cases before with
  | nil => rfl
  | cons ch before => rfl

theorem position_stepBack_lt (line : c.before ≠ []) : c.stepBack.position < c.position := by
  obtain ⟨above, before, after⟩ := c
  cases before with
  | nil => exact absurd rfl line
  | cons ch before => exact Position.lt_iff.2 (Or.inr ⟨rfl, Nat.lt_succ_self _⟩)

/-! ### Cursors of a document -/

/-- A cursor stands in a document: the document begins with the lines above it and goes on with
its line. -/
def IsIn (c : Cursor) (d : Document) : Prop :=
  ∃ below, d.lines = c.above.reverse ++ (c.before.reverse ++ c.after) :: below

theorem isIn_cursor (d : Document) (p : Position) : (d.cursor p).IsIn d := by
  have inside : (d.clamp p).line < d.lines.length := d.line_clamp_lt p
  refine ⟨d.lines.drop ((d.clamp p).line + 1), ?_⟩
  unfold Document.cursor Document.line
  rw [List.reverse_reverse, List.reverse_reverse, List.take_append_drop,
    List.getElem?_eq_getElem inside, Option.getD_some, List.getElem_cons_drop,
    List.take_append_drop]

namespace IsIn

variable {d : Document}

/-- A cursor of a document is the one at its position. -/
theorem cursor_position (isIn : c.IsIn d) : d.cursor c.position = c := by
  obtain ⟨below, lines⟩ := isIn
  have here := Document.cursor_of_lines lines
  rwa [List.length_reverse, List.length_reverse, List.reverse_reverse, List.reverse_reverse] at here

/-- What a search finds stands in the same document. -/
theorem search? (isIn : c.IsIn d) (search : c.search? step state = some found) : found.IsIn d := by
  obtain ⟨below, lines⟩ := isIn
  rcases search?_cases search with ⟨above, -, line⟩ | ⟨between, above⟩
  · refine ⟨below, ?_⟩
    rw [lines, above, line]
  · refine ⟨between ++ (c.before.reverse ++ c.after) :: below, ?_⟩
    rw [lines, above, List.append_assoc, List.cons_append]

theorem stepBack (isIn : c.IsIn d) : c.stepBack.IsIn d := by
  obtain ⟨above, before, after⟩ := c
  cases before with
  | nil => exact isIn
  | cons ch before =>
      obtain ⟨below, lines⟩ := isIn
      refine ⟨below, ?_⟩
      rw [lines, stepBack, List.reverse_cons, List.append_assoc, List.singleton_append]

/-- The cursor at an earlier place of the line. -/
theorem of_before (isIn : c.IsIn d) {near rest : List Char} (before : c.before = near ++ rest) :
    IsIn ⟨c.above, rest, near.reverse ++ c.after⟩ d := by
  obtain ⟨below, lines⟩ := isIn
  refine ⟨below, ?_⟩
  rw [lines, before, List.reverse_append, List.append_assoc]

theorem cursor_of_before (isIn : c.IsIn d) {near rest : List Char}
    (before : c.before = near ++ rest) :
    d.cursor ⟨c.above.length, rest.length⟩ = ⟨c.above, rest, near.reverse ++ c.after⟩ :=
  (isIn.of_before before).cursor_position

end IsIn

/-! ### Searches for a kind of characters -/

theorem searchLine_kind (pattern : Char → Bool) (line rest : List Char) :
    searchLine (fun _ ch => if pattern ch then none else some ()) () line rest =
      if line.dropWhile (!pattern ·) = [] then .inr ()
      else .inl (line.dropWhile (!pattern ·), (line.takeWhile (!pattern ·)).reverse ++ rest) := by
  induction line generalizing rest with
  | nil => rfl
  | cons ch line ih =>
      rw [searchLine]
      by_cases found : pattern ch = true
      · rw [if_pos found, List.dropWhile_cons_of_neg (by simp [found]),
          List.takeWhile_cons_of_neg (by simp [found]), if_neg (List.cons_ne_nil _ _)]
        rfl
      · rw [if_neg found, List.dropWhile_cons_of_pos (by simpa using found),
          List.takeWhile_cons_of_pos (by simpa using found), List.reverse_cons, List.append_assoc]
        exact ih (ch :: rest)

/-- The nearest character of a kind, if there is one before the cursor on its line. -/
theorem find?_of_line {pattern : Char → Bool} (inLine : c.before.dropWhile (!pattern ·) ≠ []) :
    c.find? pattern = some ⟨c.above, c.before.dropWhile (!pattern ·),
      (c.before.takeWhile (!pattern ·)).reverse ++ c.after⟩ := by
  rw [find?, Cursor.search?, searchLine_kind, if_neg inLine]

/-- If there is none, the search leads to a line above. -/
theorem length_above_lt_of_find? {pattern : Char → Bool}
    (notInLine : c.before.dropWhile (!pattern ·) = []) (search : c.find? pattern = some found) :
    found.above.length < c.above.length := by
  rw [find?, Cursor.search?, searchLine_kind, if_pos notInLine] at search
  obtain ⟨below, above⟩ := searchAbove_eq_some search
  have count := congrArg List.length above
  rw [List.length_append, List.length_cons, List.length_reverse, List.length_reverse] at count
  omega

end Cursor

end QmlAssist
