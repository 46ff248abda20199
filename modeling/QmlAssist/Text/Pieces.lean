import QmlAssist.Text.CharClass

/-!
# Trimming and cutting text

## Main Definitions

* `trimStart`, `trim` — text without blanks at its start, or at both ends.
* `cut` — the text before and after the first separator.
* `pieces` — the texts between separators; there is always at least one.
-/

namespace QmlAssist.Text

/-- The text after its leading blanks. -/
def trimStart (cs : List Char) : List Char :=
  cs.dropWhile isBlank

/-- The text without leading and trailing blanks. -/
def trim (cs : List Char) : List Char :=
  (trimStart (trimStart cs).reverse).reverse

/-- The text before and after the first separator, if there is one. -/
def cut (separator : Char) (cs : List Char) : Option (List Char × List Char) :=
  match cs.dropWhile (· != separator) with
  | [] => none
  | _ :: rest => some (cs.takeWhile (· != separator), rest)

/-- The texts between separators, in order.  A text without separator is its own
only piece, and `n` separators make `n + 1` pieces. -/
def pieces (separator : Char) : List Char → List (List Char)
  | [] => [[]]
  | c :: rest =>
      if c = separator then [] :: pieces separator rest
      else (pieces separator rest).modifyHead (c :: ·)

/-- There is always at least one piece. -/
theorem pieces_ne_nil (separator : Char) (cs : List Char) :
    pieces separator cs ≠ [] := by
  induction cs with
  | nil => simp [pieces]
  | cons c rest ih =>
      simp only [pieces]
      split
      · simp
      · cases h : pieces separator rest with
        | nil => exact absurd h ih
        | cons piece others => simp

end QmlAssist.Text
