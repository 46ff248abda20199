import QmlAssist.Catalog.Basic
import QmlAssist.Completion.Candidate
import QmlAssist.Text.LetterCase

/-!
# Members of components

The members of a component are its own and those of the components that it
inherits from, nearest first.  A signal is offered as the handler that markup
attaches to it, such as `onClicked` for `clicked`.

## Main Definitions

* `signalHandler` — the handler of a signal.
* `Component.ownMembers` — what a component declares itself.
* `Catalog.lineage` — a component and all it inherits from.
* `Catalog.appendMembers`, `Catalog.members` — the candidates for a component.

## Design Notes

Prototypes are looked up by internal name and may be missing or form a cycle.  The
lineage is followed through the components that have not been visited yet: after
each step all components of the visited name are left out, so a name that comes
up again is not found and the walk ends.
-/

namespace QmlAssist

/-- The name of the handler of a signal. -/
def signalHandler (signal : String) : String :=
  "on" ++ Text.capitalize signal

namespace Component

/-- The candidate of a property, which shows its type, or else its owner. -/
def propertyCandidate (c : Component) (p : Property) : Candidate :=
  ⟨p.name, .property, some (p.type.getD c.typeName)⟩

/-- The candidate of a method. -/
def methodCandidate (c : Component) (method : String) : Candidate :=
  ⟨method, .method, some c.typeName⟩

/-- The candidate of a signal. -/
def signalCandidate (c : Component) (signal : String) : Candidate :=
  ⟨signalHandler signal, .signal, some c.typeName⟩

/-- The candidates of an enumeration's values. -/
def enumCandidates (c : Component) (e : Enumeration) : List Candidate :=
  e.values.map fun value => ⟨value, .enumMember, some (c.typeName ++ "." ++ e.name)⟩

/-- The candidates for what a component declares itself. -/
def ownMembers (c : Component) : List Candidate :=
  c.properties.map c.propertyCandidate ++ c.methods.map c.methodCandidate ++
    c.signals.map c.signalCandidate ++ c.enums.flatMap c.enumCandidates

/-- The component that this one inherits from, if it is among those given. -/
def parent? (unvisited : List Component) (c : Component) : Option Component :=
  c.prototype.bind fun name => unvisited.find? (·.name == name)

theorem parent?_mem {unvisited : List Component} {c parent : Component}
    (h : c.parent? unvisited = some parent) : parent ∈ unvisited := by
  obtain ⟨name, _, found⟩ := Option.bind_eq_some_iff.1 h
  exact List.mem_of_find?_eq_some found

/-- The components with another internal name. -/
def otherThan (name : String) (components : List Component) : List Component :=
  components.filter (·.name != name)

theorem length_otherThan_lt {components : List Component} {c : Component}
    (h : c ∈ components) : (otherThan c.name components).length < components.length := by
  refine Nat.lt_of_le_of_ne (List.length_filter_le _ _) fun same => ?_
  simpa using List.length_filter_eq_length_iff.1 same c h

/-- The components that this one inherits from, nearest first, as far as they are
among those given. -/
def ancestors (unvisited : List Component) (c : Component) : List Component :=
  match _h : c.parent? unvisited with
  | none => []
  | some parent => parent :: ancestors (otherThan parent.name unvisited) parent
termination_by unvisited.length
decreasing_by exact length_otherThan_lt (parent?_mem _h)

end Component

namespace Catalog

/-- A component and all that it inherits from, nearest first. -/
def lineage (catalog : Catalog) (c : Component) : List Component :=
  c :: c.ancestors (Component.otherThan c.name catalog.components)

/-- The list with the members of a component at its end, as far as they are new
there. -/
def appendMembers (catalog : Catalog) (items : List Candidate) (c : Component) :
    List Candidate :=
  ((catalog.lineage c).flatMap Component.ownMembers).foldl Candidate.pushNew items

/-- The members of a component. -/
def members (catalog : Catalog) (c : Component) : List Candidate :=
  catalog.appendMembers [] c

end Catalog

end QmlAssist
