import QmlAssist.Completion.Basic
import QmlAssist.Document.Checked
import QmlAssist.Reference.Hover

/-!
# Analysis with numbers of 32 bits

A program finds contexts, enclosing types and words by going from position to position
of a document with checked numbers.  This module follows it from the context of a
completion and the search for the enclosing type up to the analysis of a text and the
answers to requests.

## Main Definitions

* `Checked.context`, `Checked.enclosingType` — the context and the enclosing type at a
  position.
* `Checked.findBindings`, `Checked.ofText` — the bindings and the analysis of a text.
* `Checked.complete`, `Checked.hover` — the answers to the two requests.

## Design Notes

What could keep the search for the enclosing type from ending is a header that is not
before the position it is searched from.  Going on from there is a fault, so a search
without a fault takes the same steps as one that does not look, and ends.
-/

namespace QmlAssist

namespace Checked

open Run

variable (d : Document)

/-! ### Contexts -/

/-- Go back from a column to the start of a dotted path. -/
def pathStart (n column : Nat) : Run Position := do
  match ← charBefore d ⟨n, column⟩ with
  | none => pure ⟨n, column⟩
  | some ch =>
      if Context.isPathChar ch then
        match column with
        | 0 => throw .underflow
        | column + 1 => pathStart n column
      else pure ⟨n, column⟩

/-- Whether the word `import` stands in front of the dotted path that ends at a
position. -/
def importBefore (p : Position) : Run Bool := do
  let start ← pathStart d p.line p.character
  match ← nonBlankBefore d start with
  | none => pure false
  | some (ch, place) =>
      if place.line = p.line ∧ isWordChar ch = true then
        let column ← add UInt32.size place.character 1
        let (word, _) ← wordBefore d ⟨place.line, column⟩
        pure (word == "import")
      else pure false

/-- The context at a position. -/
def context (p : Position) : Run Context := do
  let (_, start) ← wordBefore d p
  if ← importBefore d start then return .importPath
  if (← charBefore d start) = some '.' then
    let column ← sub start.character 1
    let (subject, _) ← wordBefore d ⟨start.line, column⟩
    return .memberAccess subject
  return .general

/-! ### Enclosing types -/

theorem clamp_before_or (p : Position) :
    (clamp d p).line < p.line ∨
      (clamp d p).line = p.line ∧ (clamp d p).character ≤ p.character := by
  unfold clamp
  dsimp only
  split
  next past => exact Or.inl past
  next => exact Or.inr ⟨rfl, Nat.min_le_left _ _⟩

/-- The type of the block around a position: go to the brace that opens the block and to
the word in front of it, and if this word is no type, go on from there. -/
def enclosingType (isType : String → Bool) (p : Position) : Run (Option String) := do
  let brace ← findOutsideBraces d (· == '{') p
  let stop ← find d isWordChar brace
  let (word, _) ← wordBefore d stop
  if word = "" then return none
  if isType word then return some word
  if stop.Before (clamp d p) then enclosingType isType stop else throw .endless
termination_by (p.line, p.character)
decreasing_by
  rename_i earlier
  have back := clamp_before_or d p
  unfold Position.Before at earlier
  rw [Prod.lex_def]
  omega

/-! ### Analysis of a text -/

/-- The bindings of the declarations whose enclosing type is known. -/
def findBindings (a : Analysis) : Run (List Binding) := do
  let d := Document.ofText a.text
  let found ← (Declaration.all a.text).mapM fun declaration => do
    let type ← enclosingType d a.isTypeName (truncated declaration.start)
    return type.map (⟨declaration.id, ·⟩)
  return found.filterMap id

/-- Find the bindings anew, and offer them after all other candidates. -/
def resolveIds (a : Analysis) : Run Analysis := do
  let bindings ← findBindings a
  return { a with
    candidates :=
      a.candidates.filter (·.kind ≠ .identifier) ++ bindings.map Binding.candidate
    bindings := bindings }

/-- Analyse another text. -/
def update (a : Analysis) (text : String) : Run Analysis :=
  resolveIds { a with text := text }.resolveImports

/-- The analysis of a text. -/
def ofText (catalog : Catalog) (text : String) : Run Analysis :=
  resolveIds (⟨catalog, text, [], [], [], []⟩ : Analysis).resolveImports

/-! ### Requests at a position -/

/-- The candidates for a completion at a position. -/
def complete (a : Analysis) (p : Position) : Run (List Candidate) := do
  let d := Document.ofText a.text
  match ← context d p with
  | .memberAccess subject => pure (a.subjectMembers subject)
  | .importPath => pure a.moduleCandidates
  | .general =>
      match ← enclosingType d a.isTypeName p with
      | some type => pure (a.typeMembers type ++ a.candidates)
      | none => pure a.candidates

/-- What is shown at a position. -/
def hover (a : Analysis) (p : Position) : Run (Option Hover) := do
  match ← wordAt (Document.ofText a.text) p with
  | none => pure none
  | some (word, range) =>
      pure ((Hover.markdown? (a.referenceUrls word)).map (⟨·, range⟩))

end Checked

end QmlAssist
