import QmlAssist.Text.Pieces

/-!
# Exports

An export makes a component available under a name in a version of a module.  It
is written `Module.Path/Component version`, for instance
`QtQuick.Controls/Button 2.1`.

## Main Definitions

* `Export.WellFormed` — which exports can be written.
* `Export.render` — the written form.
* `Export.parse?` — the export that a text denotes.
-/

namespace QmlAssist

/-- One export of a component. -/
structure Export where
  /-- The segments of the dotted module path. -/
  segments : List String
  /-- The name of the component in markup. -/
  component : String
  /-- The version of the module, exactly as written. -/
  version : String
deriving DecidableEq, Repr

namespace Export

/-- The dotted path of the module. -/
def moduleName (e : Export) : String :=
  ".".intercalate e.segments

/-- A version text is non-empty and has no blanks. -/
def IsVersionText (cs : List Char) : Prop :=
  cs ≠ [] ∧ cs.all (!isBlank ·) = true

instance (cs : List Char) : Decidable (IsVersionText cs) :=
  inferInstanceAs (Decidable (_ ∧ _))

/-- The exports that have a written form: path and component are spelled with
name characters, and the version is free of blanks. -/
def WellFormed (e : Export) : Prop :=
  e.segments ≠ [] ∧ (∀ s ∈ e.segments, IsName s.toList) ∧
    IsName e.component.toList ∧ IsVersionText e.version.toList

/-- The written form of an export. -/
def render (e : Export) : String :=
  e.moduleName ++ "/" ++ e.component ++ " " ++ e.version

/-- The export that a text denotes, blanks around it apart. -/
def parse? (text : String) : Option Export := do
  let (path, rest) ← Text.cut '/' (Text.trim text.toList)
  let (component, version) ← Text.cut ' ' rest
  let segments := Text.pieces '.' path
  if (∀ s ∈ segments, IsName s) ∧ IsName component ∧ IsVersionText version then
    some ⟨segments.map String.ofList, String.ofList component, String.ofList version⟩
  else none

end Export

end QmlAssist
