import QmlAssist.Document.Basic

/-!
# Cursors

A cursor is a document seen from one of its positions.  Text is read backward
from there, so what lies before the cursor is kept with the nearest part first.

## Main Definitions

* `Cursor` — the text around a position.
* `Document.cursor` — the cursor at a position, which is clamped first.
* `Cursor.search?` — a backward search that carries a state.
* `Cursor.find?`, `Cursor.findOutsideBraces?` — the nearest character of a kind,
  anywhere or outside closed blocks.

## Design Notes

A search yields the cursor just after the character that it looked for.  It works
line by line: the rest of the current line first, then the lines above from their
ends.  Since lines are kept nearest first, both parts are structural recursions,
and a search can only lead to a cursor with less text before it
(`Cursor.size_search?_le`).
-/

namespace QmlAssist

/-- The text around a position. -/
structure Cursor where
  /-- The lines above, the nearest first. -/
  above : List (List Char)
  /-- The line before the cursor, the nearest character first. -/
  before : List Char
  /-- The line after the cursor. -/
  after : List Char
deriving DecidableEq, Repr

/-- The cursor at a position of a document. -/
def Document.cursor (d : Document) (p : Position) : Cursor :=
  let p := d.clamp p
  let line := d.line p.line
  { above := (d.lines.take p.line).reverse
    before := (line.take p.character).reverse
    after := line.drop p.character }

namespace Cursor

/-- The position of a cursor. -/
def position (c : Cursor) : Position :=
  ⟨c.above.length, c.before.length⟩

/-- The cursor at a position stands at the nearest position inside the document. -/
@[simp]
theorem position_cursor (d : Document) (p : Position) :
    (d.cursor p).position = d.clamp p := by
  have line := d.line_clamp_lt p
  have character := d.character_clamp_le p
  simp only [Document.lineCount] at line
  simp only [Document.lineLength] at character
  simp only [position, Document.cursor, List.length_reverse, List.length_take,
    Nat.min_eq_left character, Nat.min_eq_left (Nat.le_of_lt line)]

/-- Cursors see a position only as the nearest one inside the document. -/
theorem cursor_clamp (d : Document) (p : Position) : d.cursor (d.clamp p) = d.cursor p := by
  simp only [Document.cursor, Document.clamp_clamp]

/-- The number of characters before a cursor. -/
def size (c : Cursor) : Nat :=
  c.above.flatten.length + c.before.length

/-- The character before the cursor on its line. -/
def charBefore? (c : Cursor) : Option Char :=
  c.before.head?

/-- The cursor in front of the character before it; at the start of a line the
cursor stays. -/
def stepBack (c : Cursor) : Cursor :=
  match c.before with
  | [] => c
  | ch :: before => ⟨c.above, before, ch :: c.after⟩

/-! ### Backward search -/

variable {σ : Type}

/-- Search a line backward.  The step function takes the state and the next
character, and returns the next state, or nothing where the search ends.  The
result is the line divided after the character found, or the final state. -/
def searchLine (step : σ → Char → Option σ) :
    σ → List Char → List Char → (List Char × List Char) ⊕ σ
  | state, [], _ => .inr state
  | state, ch :: before, after =>
      match step state ch with
      | none => .inl (ch :: before, after)
      | some state => searchLine step state before (ch :: after)

/-- Search lines from their ends, one after the other. -/
def searchAbove (step : σ → Char → Option σ) : σ → List (List Char) → Option Cursor
  | _, [] => none
  | state, line :: above =>
      match searchLine step state line.reverse [] with
      | .inl (before, after) => some ⟨above, before, after⟩
      | .inr state => searchAbove step state above

/-- Search backward to the start of the document.  The result is the cursor just
after the character at which the step function ends the search. -/
def search? (step : σ → Char → Option σ) (state : σ) (c : Cursor) : Option Cursor :=
  match searchLine step state c.before c.after with
  | .inl (before, after) => some ⟨c.above, before, after⟩
  | .inr state => searchAbove step state c.above

/-- The nearest cursor at or before this one that follows a character of the given
kind. -/
def find? (pattern : Char → Bool) : Cursor → Option Cursor :=
  search? (fun _ ch => if pattern ch then none else some ()) ()

/-- The depth in closed blocks after a character was passed backward.  A closing
brace enters a block, an opening brace leaves it. -/
def passBrace (depth : Nat) (ch : Char) : Nat :=
  if ch = '}' then depth + 1
  else if ch = '{' then depth - 1
  else depth

/-- As `find?`, but characters in blocks that are closed before the cursor are
passed over.  The character is tested before its brace is counted, so the brace
that encloses the cursor can itself be found. -/
def findOutsideBraces? (pattern : Char → Bool) : Cursor → Option Cursor :=
  search? (fun depth ch =>
    if depth = 0 && pattern ch then none else some (passBrace depth ch)) 0

/-! ### Searches lead backward -/

theorem length_searchLine_le (step : σ → Char → Option σ) (state : σ)
    (line rest before after : List Char)
    (found : searchLine step state line rest = .inl (before, after)) :
    before ≠ [] ∧ before.length ≤ line.length := by
  induction line generalizing state rest with
  | nil => simp [searchLine] at found
  | cons ch line ih =>
      simp only [searchLine] at found
      split at found
      · simp only [Sum.inl.injEq, Prod.mk.injEq] at found
        simp [← found.1]
      · have shorter := ih _ _ found
        simp only [List.length_cons]
        exact ⟨shorter.1, by omega⟩

theorem size_searchAbove_le (step : σ → Char → Option σ) (state : σ)
    (above : List (List Char)) (c : Cursor)
    (found : searchAbove step state above = some c) :
    c.before ≠ [] ∧ c.size ≤ above.flatten.length := by
  induction above generalizing state with
  | nil => simp [searchAbove] at found
  | cons line above ih =>
      simp only [searchAbove] at found
      split at found
      next before after inLine =>
        have shorter := length_searchLine_le step state _ _ _ _ inLine
        simp only [Option.some.injEq] at found
        subst found
        simp only [List.length_reverse] at shorter
        exact ⟨shorter.1, by simp only [size, List.flatten_cons, List.length_append]; omega⟩
      next =>
        have earlier := ih _ found
        exact ⟨earlier.1, by simp only [List.flatten_cons, List.length_append]; omega⟩

/-- A search ends after a character, and with at most as much text before it. -/
theorem size_search?_le (step : σ → Char → Option σ) (state : σ) (c found : Cursor)
    (h : c.search? step state = some found) :
    found.before ≠ [] ∧ found.size ≤ c.size := by
  simp only [search?] at h
  split at h
  next before after inLine =>
    have shorter := length_searchLine_le step state _ _ _ _ inLine
    simp only [Option.some.injEq] at h
    subst h
    exact ⟨shorter.1, by simp only [size]; omega⟩
  next =>
    have earlier := size_searchAbove_le step _ _ _ h
    exact ⟨earlier.1, by simp only [size] at earlier ⊢; omega⟩

theorem size_stepBack_lt (c : Cursor) (h : c.before ≠ []) : c.stepBack.size < c.size := by
  cases c with
  | mk above before after =>
      cases before with
      | nil => exact absurd rfl h
      | cons ch before => simp [stepBack, size]

end Cursor

end QmlAssist
