import QmlAssist.Document.Position
import QmlAssist.Text.Pieces

/-!
# Documents

A document is a text divided into lines.  A line ends at a line feed, and a
carriage return directly in front of the line feed, or at the end of the text,
belongs to the line end.

## Main Definitions

* `Document` — the lines; there is always at least one.
* `Document.ofText` — the document of a text.
* `Document.clamp` — the nearest position inside the document; it lies inside
  (`Document.line_clamp_lt`, `Document.character_clamp_le`).
-/

namespace QmlAssist

/-- A text divided into lines, without the line ends. -/
structure Document where
  lines : List (List Char)
  lines_ne_nil : lines ≠ []

namespace Document

/-- A line without the carriage return at its end. -/
def dropReturn (line : List Char) : List Char :=
  if line.getLast? = some '\r' then line.dropLast else line

/-- The document of a text. -/
def ofText (text : String) : Document where
  lines := (Text.pieces '\n' text.toList).map dropReturn
  lines_ne_nil := by simpa using Text.pieces_ne_nil '\n' text.toList

/-- The number of lines. -/
def lineCount (d : Document) : Nat :=
  d.lines.length

/-- The characters of a line; a line past the end has none. -/
def line (d : Document) (n : Nat) : List Char :=
  d.lines[n]?.getD []

/-- The number of characters of a line. -/
def lineLength (d : Document) (n : Nat) : Nat :=
  (d.line n).length

/-- The nearest position inside the document.  A line past the end means the end
of the document, a column past the end means the end of the line. -/
def clamp (d : Document) (p : Position) : Position :=
  let last := d.lineCount - 1
  if last < p.line then ⟨last, d.lineLength last⟩
  else ⟨p.line, min p.character (d.lineLength p.line)⟩

/-! ### Clamped positions lie in the document -/

theorem lineCount_pos (d : Document) : 0 < d.lineCount :=
  List.length_pos_iff.2 d.lines_ne_nil

theorem line_clamp_lt (d : Document) (p : Position) : (d.clamp p).line < d.lineCount := by
  have positive := d.lineCount_pos
  simp only [clamp]
  split
  · exact Nat.sub_lt positive Nat.one_pos
  · show p.line < d.lineCount
    omega

theorem character_clamp_le (d : Document) (p : Position) :
    (d.clamp p).character ≤ d.lineLength (d.clamp p).line := by
  simp only [clamp]
  split
  · exact Nat.le_refl _
  · exact Nat.min_le_right _ _

/-- A position inside the document is its own nearest one. -/
theorem clamp_of_inside (d : Document) (p : Position) (line : p.line < d.lineCount)
    (character : p.character ≤ d.lineLength p.line) : d.clamp p = p := by
  have inside : ¬d.lineCount - 1 < p.line := by omega
  simp only [clamp, if_neg inside, Nat.min_eq_left character]

@[simp]
theorem clamp_clamp (d : Document) (p : Position) : d.clamp (d.clamp p) = d.clamp p :=
  d.clamp_of_inside _ (d.line_clamp_lt p) (d.character_clamp_le p)

end Document

end QmlAssist
