import QmlAssist.Text.CharClass

/-!
# Occurrences of patterns

A pattern recognises a construct at one place of a text.  Its occurrences are
found from left to right, and the search goes on behind each of them.
-/

namespace QmlAssist.Text

/-- A pattern is asked about a place of a text, with the text before it, nearest
character first, and the text after it.  It answers with what it recognises there
and the number of characters that this takes up. -/
abbrev Pattern (α : Type) := List Char → List Char → Option (α × Nat)

/-- The occurrences of a pattern in a text, of which the first `skip` characters
are already taken up; `before` is the text in front of it. -/
def occurrencesAfter {α : Type} (pattern : Pattern α) (before : List Char) :
    Nat → List Char → List α
  | _, [] => []
  | skip + 1, c :: rest => occurrencesAfter pattern (c :: before) skip rest
  | 0, c :: rest =>
      match pattern before (c :: rest) with
      | some (value, length) =>
          value :: occurrencesAfter pattern (c :: before) (length - 1) rest
      | none => occurrencesAfter pattern (c :: before) 0 rest

/-- The occurrences of a pattern in a text, from left to right and without
overlap. -/
def occurrences {α : Type} (pattern : Pattern α) (text : String) : List α :=
  occurrencesAfter pattern [] 0 text.toList

/-- Whether a name may start after the given text, nearest character first: a name
does not start inside another. -/
def atNameStart (before : List Char) : Bool :=
  !before.head?.any isNameChar

/-- The text after a word that it has to begin with. -/
def dropWord? (word : List Char) (cs : List Char) : Option (List Char) :=
  if word.isPrefixOf cs then some (cs.drop word.length) else none

end QmlAssist.Text
