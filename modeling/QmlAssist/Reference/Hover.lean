import QmlAssist.Analysis.Basic
import QmlAssist.Reference.Site

/-!
# Reference links of a document

Hovering the name of a component shows links to its reference pages.
-/

namespace QmlAssist

/-- The text that is shown over a stretch of a document. -/
structure Hover where
  /-- The text, in Markdown. -/
  value : String
  range : Range
deriving DecidableEq, Repr

/-- The exports of a component that have pages of their own: the primary one, and
those into other modules. -/
def Component.documented (c : Component) : List Export :=
  c.primary :: c.further.filter (·.moduleName ≠ c.primary.moduleName)

namespace Hover

/-- What is said before several links. -/
def severalLinks : String :=
  "Multiple Api reference links found for this component.\n\n" ++
    "You may have imported multiple modules containing the component with the same name, " ++
    "or some of the links may be deprecated.\n"

/-- The text that shows links, each on a line of its own between empty ones. -/
def markdown? (urls : List String) : Option String :=
  match urls with
  | [] => none
  | [url] => some ("\n" ++ url ++ "\n")
  | _ => some (severalLinks ++ "".intercalate (urls.map fun url => "\n" ++ url ++ "\n"))

end Hover

namespace Analysis

/-- The reference pages of all components in scope under a name, each once. -/
def referenceUrls (a : Analysis) (name : String) : List String :=
  ((a.named name).flatMap fun (_, c) => c.documented.map Export.url).eraseDups

/-- What is shown at a position. -/
def hover? (a : Analysis) (p : Position) : Option Hover := do
  let (word, range) ← ((Document.ofText a.text).cursor p).wordAt?
  let value ← Hover.markdown? (a.referenceUrls word)
  some ⟨value, range⟩

end Analysis

end QmlAssist
