/-!
# Cutting text at byte positions

Positions are counted in bytes of the UTF-8 form of a text.  A position inside of a
character is no place to cut.

## Main Definitions

* `byteLength` — the number of bytes of a text.
* `takeBytes?`, `dropBytes?`, `slice?` — the text before, after and between positions.
-/

namespace QmlAssist.Text

/-- The number of bytes of a text. -/
def byteLength (cs : List Char) : Nat :=
  cs.foldl (fun n c => n + c.utf8Size) 0

/-- The text of the given number of bytes. -/
def takeBytes? : Nat → List Char → Option (List Char)
  | 0, _ => some []
  | _ + 1, [] => none
  | size + 1, c :: rest =>
      if c.utf8Size ≤ size + 1 then (takeBytes? (size + 1 - c.utf8Size) rest).map (c :: ·)
      else none

/-- The text after the given number of bytes. -/
def dropBytes? : Nat → List Char → Option (List Char)
  | 0, cs => some cs
  | _ + 1, [] => none
  | size + 1, c :: rest =>
      if c.utf8Size ≤ size + 1 then dropBytes? (size + 1 - c.utf8Size) rest else none

/-- The text between two positions. -/
def slice? (start stop : Nat) (cs : List Char) : Option (List Char) :=
  (dropBytes? start cs).bind (takeBytes? (stop - start))

end QmlAssist.Text
