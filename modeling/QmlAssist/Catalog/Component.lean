import QmlAssist.Catalog.Export

/-!
# Components and modules

A component is a type of markup.  It is known internally by one name and exported
to markup under others; the first export is its primary one, by which markup names
are matched.
-/

namespace QmlAssist

/-- A property of a component, with the name of its type if that is known. -/
structure Property where
  name : String
  type : Option String
deriving DecidableEq, Repr

/-- An enumeration of a component, with the names of its values. -/
structure Enumeration where
  name : String
  values : List String
deriving DecidableEq, Repr

/-- A component of the catalog. -/
structure Component where
  /-- The internal name, by which prototypes refer to components. -/
  name : String
  /-- The export by which markup names are matched. -/
  primary : Export
  /-- All other exports, in order. -/
  further : List Export
  /-- The internal name of the component that members are inherited from. -/
  prototype : Option String
  properties : List Property
  methods : List String
  signals : List String
  enums : List Enumeration
deriving DecidableEq, Repr

namespace Component

/-- All exports, in order. -/
def exports (c : Component) : List Export :=
  c.primary :: c.further

/-- The name of the component in markup. -/
def typeName (c : Component) : String :=
  c.primary.component

end Component

/-- A component is referred to by its place in the catalog. -/
abbrev ComponentId := Nat

/-- A module: a named and versioned group of components. -/
structure Module where
  name : String
  /-- The least version among the exports into this module, as written. -/
  version : String
  components : List ComponentId
deriving DecidableEq, Repr

end QmlAssist
