import QmlAssist.Document.Cursor

/-!
# Scans with numbers of 32 bits

A cursor holds the text around a position, so it has no numbers that could overflow and
no index that could be out of range.  A program that scans a document has both: a
position is two numbers of 32 bits, and the characters before it are visited by counting
down columns and line numbers.  This module gives the searches and the words of a cursor
in that form.

## Main Definitions

* `Fault`, `Run` — what can go wrong, and computations in which it can.
* `Run.add`, `Run.sub`, `Run.get`, `Run.slice`, `Run.truncate` — sums, differences and
  indices that are checked, and sizes that are cut off.
* `Checked.scanBackward`, `Checked.find`, `Checked.findOutsideBraces` — searches by
  counting down.
* `Checked.charBefore`, `Checked.wordBefore`, `Checked.nonBlankBefore`,
  `Checked.wordAt` — what stands at a position.
* `Checked.ofOffset` — the position at a byte offset.

## Design Notes

Numbers are natural numbers, and a sum that does not fit into its type is a fault.  The
length of a list is cut off to 32 bits instead, without a fault, and so is an index that
becomes a column.  Indices of characters have 64 bits while they are counted up.
-/

namespace QmlAssist

/-! ### Numbers that can overflow, and lists that are indexed -/

/-- What can go wrong in a scan. -/
inductive Fault where
  | underflow
  | overflow
  | outOfRange
  /-- A search goes on from a place that is not before the last one. -/
  | endless
deriving DecidableEq, Repr

/-- A run gives a value, or ends in a fault. -/
abbrev Run (α : Type) := Except Fault α

namespace Run

variable {α : Type}

/-- A sum of numbers of a type, which has to be smaller than the size of the type. -/
def add (size m n : Nat) : Run Nat :=
  if m + n < size then pure (m + n) else throw .overflow

/-- A difference, which must not be negative. -/
def sub (m n : Nat) : Run Nat :=
  if n ≤ m then pure (m - n) else throw .underflow

/-- An item of a list by its index. -/
def get (items : List α) (i : Nat) : Run α :=
  match items[i]? with
  | some item => pure item
  | none => throw .outOfRange

/-- The items from one index up to another one. -/
def slice (items : List α) (start stop : Nat) : Run (List α) :=
  if start ≤ stop ∧ stop ≤ items.length then pure (items.extract start stop)
  else throw .outOfRange

/-- A number cut off to 32 bits, which is no fault. -/
def truncate (n : Nat) : Nat :=
  n % UInt32.size

end Run

/-! ### Scans -/

namespace Checked

open Run

variable (d : Document)

def lineCount : Nat :=
  truncate d.lines.length

/-- The number of characters of a line, or zero past the end of the document. -/
def lineLength (n : Nat) : Nat :=
  match d.lines[n]? with
  | some line => truncate line.length
  | none => 0

/-- The nearest position inside the document. -/
def clamp (p : Position) : Position :=
  let last := lineCount d - 1
  if last < p.line then ⟨last, lineLength d last⟩
  else ⟨p.line, min p.character (lineLength d p.line)⟩

def charAt? (n column : Nat) : Option Char :=
  d.lines[n]?.bind (·[column]?)

/-- The character in front of a position on its line. -/
def charBefore (p : Position) : Run (Option Char) := do
  let p := clamp d p
  if p.character = 0 then return none
  let column ← sub p.character 1
  return charAt? d p.line column

section Scan

variable {σ : Type} (visit : σ → Char → Run (Option σ))

/-- Visit a line backward from a column.  The visitor takes a state and a character, and
gives the next state, or nothing where the scan ends. -/
def scanLine (line : List Char) (n : Nat) : Nat → σ → Run (Position ⊕ σ)
  | 0, state => pure (.inr state)
  | column + 1, state => do
      let i ← sub (column + 1) 1
      let ch ← get line i
      match ← visit state ch with
      | none => pure (.inl ⟨n, column + 1⟩)
      | some state => scanLine line n column state

/-- Visit the lines in front of a line number backward, the line of a position from its
column and all others from their ends.  Nothing found is reported as the origin. -/
def scanLines (p : Position) : Nat → σ → Run Position
  | 0, _ => pure .origin
  | n + 1, state => do
      let start := if n = p.line then p.character else lineLength d n
      let line ← get d.lines n
      match ← scanLine visit line n start state with
      | .inl found => pure found
      | .inr state => scanLines p n state

/-- Visit everything before a position backward. -/
def scanBackward (state : σ) (p : Position) : Run Position :=
  let p := clamp d p
  scanLines d visit p (p.line + 1) state

end Scan

/-- The nearest position at or before this one that follows a character of the given
kind. -/
def find (pattern : Char → Bool) (p : Position) : Run Position :=
  scanBackward d (fun _ ch => pure (if pattern ch then none else some ())) () p

/-- The depth in closed blocks after a character was passed backward.  It is the one
number that does not count places. -/
def passBrace (depth : Nat) (ch : Char) : Run Nat :=
  if ch = '}' then add UInt32.size depth 1
  else if ch = '{' then pure (depth - 1)
  else pure depth

/-- As `find`, but characters in blocks that are closed before the position are passed
over. -/
def findOutsideBraces (pattern : Char → Bool) (p : Position) : Run Position :=
  scanBackward d
    (fun depth ch =>
      if depth = 0 && pattern ch then pure none else some <$> passBrace depth ch) 0 p

/-! ### Words -/

/-- Go back from an index while there are word characters. -/
def runStart (line : List Char) : Nat → Run Nat
  | 0 => pure 0
  | start + 1 => do
      let i ← sub (start + 1) 1
      let ch ← get line i
      if isWordChar ch then runStart line start else pure (start + 1)

/-- Go on from an index while there are word characters. -/
def runStop (line : List Char) (stop : Nat) : Run Nat := do
  if stop < line.length then
    let ch ← get line stop
    if isWordChar ch then
      let _ ← add UInt64.size stop 1
      runStop line (stop + 1)
    else pure stop
  else pure stop
termination_by line.length - stop

/-- The word that ends at a position, and where it starts. -/
def wordBefore (p : Position) : Run (String × Position) := do
  let p := clamp d p
  match d.lines[p.line]? with
  | none => pure ("", p)
  | some line =>
      let start ← runStart line p.character
      let word ← slice line start p.character
      pure (String.ofList word, ⟨p.line, truncate start⟩)

/-- The nearest character that is not blank, with the position in front of it. -/
def nonBlankBefore (p : Position) : Run (Option (Char × Position)) := do
  let after ← find d (!isBlank ·) p
  if after = .origin then return none
  let column ← sub after.character 1
  return (charAt? d after.line column).map (·, ⟨after.line, column⟩)

/-- The whole word that a position touches, with its range. -/
def wordAt (p : Position) : Run (Option (String × Range)) := do
  let p := clamp d p
  match d.lines[p.line]? with
  | none => pure none
  | some line =>
      let start ← runStart line p.character
      let stop ← runStop line p.character
      if start = stop then return none
      let word ← slice line start stop
      return some (String.ofList word, ⟨⟨p.line, truncate start⟩, ⟨p.line, truncate stop⟩⟩)

/-! ### Offsets -/

/-- A position whose numbers are cut off. -/
def truncated (p : Position) : Position :=
  ⟨truncate p.line, truncate p.character⟩

/-- The position at a byte offset of a text; an offset past the end means the end. -/
def ofOffset (text : String) (offset : Nat) : Position :=
  truncated (.ofOffset text offset)

end Checked

end QmlAssist
