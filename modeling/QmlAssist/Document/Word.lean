import QmlAssist.Document.Cursor

/-!
# Words

A word is a maximal run of word characters of one line.

## Main Definitions

* `Cursor.wordBefore` — the part of a word that ends at the cursor.
* `Cursor.wordAt?` — the whole word that the cursor touches, with its range.
* `Cursor.enclosingWords` — the words in front of the blocks around the cursor,
  from the inside out.

## Design Notes

The search for enclosing blocks goes on from the word in front of a block, not
from its brace.  Between the two there may be any text without word characters,
and the word itself may lie on an earlier line.  Every step leaves less text
before the cursor (`Cursor.size_enclosing?_lt`), so the search ends.
-/

namespace QmlAssist.Cursor

/-- The run of word characters that ends at the cursor; it may be empty. -/
def wordBefore (c : Cursor) : String :=
  String.ofList (c.before.takeWhile isWordChar).reverse

/-- The position at which the run of word characters before the cursor starts. -/
def wordStart (c : Cursor) : Position :=
  ⟨c.above.length, (c.before.dropWhile isWordChar).length⟩

/-- The word that the cursor stands in or touches, with its range. -/
def wordAt? (c : Cursor) : Option (String × Range) :=
  let left := c.before.takeWhile isWordChar
  let right := c.after.takeWhile isWordChar
  if left = [] ∧ right = [] then none
  else
    some (String.ofList (left.reverse ++ right),
      { start := c.wordStart
        stop := ⟨c.above.length, c.before.length + right.length⟩ })

/-- The nearest character before the cursor that is not blank, with the position
in front of it. -/
def nonBlankBefore? (c : Cursor) : Option (Char × Position) := do
  let found ← c.find? (!isBlank ·)
  let ch ← found.charBefore?
  some (ch, found.stepBack.position)

/-- The cursor after the word in front of the innermost block around this one. -/
def enclosing? (c : Cursor) : Option Cursor := do
  let brace ← c.findOutsideBraces? (· == '{')
  brace.stepBack.find? isWordChar

theorem size_enclosing?_lt (c outer : Cursor) (h : c.enclosing? = some outer) :
    outer.size < c.size := by
  obtain ⟨brace, atBrace, atWord⟩ := Option.bind_eq_some_iff.1 h
  have braceBack := size_search?_le _ _ _ _ atBrace
  have wordBack := size_search?_le _ _ _ _ atWord
  have step := size_stepBack_lt brace braceBack.1
  omega

/-- The words in front of the blocks around the cursor, from the inside out. -/
def enclosingWords (c : Cursor) : List String :=
  match _h : c.enclosing? with
  | none => []
  | some outer => outer.wordBefore :: outer.enclosingWords
termination_by c.size
decreasing_by exact size_enclosing?_lt c outer _h

end QmlAssist.Cursor
