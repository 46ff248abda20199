/-!
# Positions

A position points between two characters of a line.  Lines and columns count from
zero, and columns count characters.

## Main Definitions

* `Position`, `Range` — places in a document.
* `Position.after` — the position that a text leads up to.
* `Position.ofOffset` — the position at a byte offset.
* `Position.ofSearch` — how the outcome of a search is reported.
-/

namespace QmlAssist

/-- A place between characters. -/
structure Position where
  line : Nat
  character : Nat
deriving DecidableEq, Repr

/-- The stretch between two positions of a document. -/
structure Range where
  start : Position
  stop : Position
deriving DecidableEq, Repr

namespace Position

/-- The start of a document. -/
def origin : Position := ⟨0, 0⟩

/-- A position comes before another one. -/
def Before (p q : Position) : Prop :=
  p.line < q.line ∨ p.line = q.line ∧ p.character < q.character

instance (p q : Position) : Decidable (p.Before q) :=
  inferInstanceAs (Decidable (_ ∨ _))

/-- A search that finds nothing is reported as the origin.  This is not ambiguous:
what a search finds is the position after some character, which is never the
origin. -/
def ofSearch (found : Option Position) : Position :=
  found.getD origin

/-- The position that a text leads up to.  The text is given with the nearest
character first, and carriage returns take up no column. -/
def after (before : List Char) : Position where
  line := before.count '\n'
  character := ((before.takeWhile (· != '\n')).filter (· != '\r')).length

/-- The characters that the first `size` bytes of a text hold. -/
def takeBytes : Nat → List Char → List Char
  | _, [] => []
  | size, c :: rest =>
      if c.utf8Size ≤ size then c :: takeBytes (size - c.utf8Size) rest else []

/-- The position at a byte offset of a text; an offset past the end means the
end. -/
def ofOffset (text : String) (offset : Nat) : Position :=
  after (takeBytes offset text.toList).reverse

end Position

end QmlAssist
