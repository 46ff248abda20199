import QmlAssist.Document.Position
import QmlAssist.Text.Occurrence

/-!
# Id declarations

A block of markup is given a name by `id: name`.  Blanks, line ends among them,
may stand on both sides of the colon.
-/

namespace QmlAssist

/-- The declaration of an id, with the position at which it starts. -/
structure Declaration where
  id : String
  start : Position
deriving DecidableEq, Repr

namespace Declaration

/-- Recognises a declaration. -/
def pattern : Text.Pattern Declaration := fun before cs => do
  let word := "id".toList
  let afterWord ← Text.dropWord? word cs
  let blanks := afterWord.takeWhile isBlank
  let afterColon ← Text.dropWord? [':'] (afterWord.drop blanks.length)
  let moreBlanks := afterColon.takeWhile isBlank
  let name := (afterColon.drop moreBlanks.length).takeWhile isNameChar
  if Text.atNameStart before = false ∨ name = [] then none
  else
    some (⟨String.ofList name, Position.after before⟩,
      word.length + blanks.length + 1 + moreBlanks.length + name.length)

/-- The declarations of a text, in order. -/
def all (text : String) : List Declaration :=
  Text.occurrences pattern text

end Declaration

end QmlAssist
