import QmlAssist.Text.Occurrence

/-!
# Imports

An import is the word `import`, a dotted module path, and a clause up to the end
of the line that may name a version.  Blanks of every kind, line ends among them,
may stand between the word and the path.
-/

namespace QmlAssist

/-- An import of a document. -/
structure Import where
  /-- The dotted module path. -/
  path : String
  /-- The rest of the line after the path. -/
  clause : String
deriving DecidableEq, Repr

namespace Import

/-- The longest beginning of a text that consists of names, each followed by at
most one dot.  The flag tells whether a dot may come now. -/
def dottedRun (dotMayFollow : Bool) : List Char → List Char
  | [] => []
  | c :: rest =>
      if isNameChar c then c :: dottedRun true rest
      else if c = '.' && dotMayFollow then c :: dottedRun false rest
      else []

/-- A path without the dot at its end. -/
def dropFinalDot (path : List Char) : List Char :=
  (path.reverse.dropWhile (· == '.')).reverse

/-- Spaces and tabs separate the path from the clause. -/
def isGap (c : Char) : Bool :=
  c == ' ' || c == '\t'

/-- The characters that end a clause. -/
def isLineEnd (c : Char) : Bool :=
  c == '\r' || c == '\n'

/-- Recognises an import. -/
def pattern : Text.Pattern Import := fun before cs => do
  let word := "import".toList
  let afterWord ← Text.dropWord? word cs
  let blanks := afterWord.takeWhile isBlank
  let path := dottedRun false (afterWord.drop blanks.length)
  if Text.atNameStart before = false ∨ blanks = [] ∨ path = [] then none
  else
    let afterPath := afterWord.drop (blanks.length + path.length)
    let gap := afterPath.takeWhile isGap
    let clause := (afterPath.drop gap.length).takeWhile (!isLineEnd ·)
    some (⟨String.ofList (dropFinalDot path), String.ofList clause⟩,
      word.length + blanks.length + path.length + gap.length + clause.length)

/-- The imports of a text, in order. -/
def all (text : String) : List Import :=
  Text.occurrences pattern text

end Import

end QmlAssist
