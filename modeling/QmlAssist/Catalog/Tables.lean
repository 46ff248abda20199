import QmlAssist.Catalog.Component
import QmlAssist.Catalog.Version

/-!
# The tables of the catalog

Components and modules are kept in the order in which they appear, and are referred to
by their places.  Two indices lead from names to places: one to the module of a name,
and one to the first component of an internal name.

## Main Definitions

* `Index` — places by name.
* `Tables` — components, modules and the two indices.
* `Tables.enlist` — let a component join the module of one of its exports.
* `Tables.insert` — enter a component.
* `Tables.component?`, `Tables.module?`, `Tables.idOf?` — look up.
* `Tables.Indexed` — the indices lead to where a search would.

## Main Statements

* `Tables.Indexed.insert` — it stays so when a component is entered.

## Design Notes

A component is entered in the index of components before its exports are gone through,
and joins the list of components only after that.  In between the index is one
component ahead of the list, so the invariant of the loop over the exports
(`Tables.Locates`) is about a list of names that need not be that of the components.
-/

namespace QmlAssist

/-! ### Indices -/

/-- Places by name. -/
abbrev Index := List (String × Nat)

namespace Index

/-- The place that is noted for a name. -/
def place? (index : Index) (name : String) : Option Nat :=
  index.lookup name

/-- Note the place of a name. -/
def note (index : Index) (name : String) (place : Nat) : Index :=
  (name, place) :: index

/-- Note the place of a name, unless a place is noted for it already. -/
def noteNew (index : Index) (name : String) (place : Nat) : Index :=
  match index.place? name with
  | some _ => index
  | none => index.note name place

/-- The index leads to where a search in a list of names would. -/
def Locates (index : Index) (names : List String) : Prop :=
  ∀ name, index.place? name = names.idxOf? name

theorem place?_note (index : Index) (name key : String) (place : Nat) :
    (index.note name place).place? key =
      if name = key then some place else index.place? key := by
  unfold place? note
  rw [List.lookup_cons]
  by_cases same : name = key
  · subst same
    rw [beq_self_eq_true, if_pos rfl]
  · rw [beq_false_of_ne (Ne.symm same), if_neg same]

theorem idxOf?_concat (names : List String) (name key : String) :
    (names ++ [name]).idxOf? key =
      (names.idxOf? key).or (if name = key then some names.length else none) := by
  unfold List.idxOf?
  rw [List.findIdx?_append, List.findIdx?_singleton]
  by_cases same : name = key
  · simp [same]
  · simp [same]

theorem locates_nil : Locates [] [] :=
  fun _ => rfl

variable {index : Index} {names : List String}

/-- A new name is noted at the end of the list. -/
theorem Locates.note (locates : index.Locates names) {name : String}
    (new : index.place? name = none) :
    (index.note name names.length).Locates (names ++ [name]) := by
  intro key
  rw [place?_note, idxOf?_concat, ← locates key]
  split
  next same =>
    rw [← same, new]
    rfl
  next => rw [Option.or_none]

/-- Only the first place of a name counts. -/
theorem Locates.noteNew (locates : index.Locates names) (name : String) :
    (index.noteNew name names.length).Locates (names ++ [name]) := by
  unfold Index.noteNew
  split
  next place noted =>
    intro key
    rw [idxOf?_concat, ← locates key]
    split
    next same =>
      rw [← same, noted]
      rfl
    next => rw [Option.or_none]
  next new => exact locates.note new

/-- A place that is noted is a place of the list. -/
theorem Locates.getElem? (locates : index.Locates names) {name : String} {place : Nat}
    (noted : index.place? name = some place) : names[place]? = some name := by
  rw [locates name] at noted
  obtain ⟨inside, same, -⟩ := List.findIdx?_eq_some_iff_getElem.1 noted
  rw [List.getElem?_eq_getElem inside, eq_of_beq same]

end Index

/-! ### Modules -/

namespace Module

/-- Whether one of the members is this component or another of its internal
name. -/
def hasMember (m : Module) (known : List Component) (id : ComponentId) (name : String) :
    Bool :=
  m.components.any fun member =>
    member == id || (known[member]?.any fun c => c.name == name)

/-- Take note of an export into this module: keep the lesser version, and let the
component join. -/
def receive (m : Module) (known : List Component) (id : ComponentId) (name : String)
    (version : String) : Module where
  name := m.name
  version := if Version.cmpTexts version m.version = .lt then version else m.version
  components := if m.hasMember known id name then m.components else m.components ++ [id]

end Module

/-! ### Tables -/

/-- Components and modules, with an index for each. -/
structure Tables where
  components : List Component
  modules : List Module
  /-- The places of the modules. -/
  moduleIndex : Index
  /-- The places of the first components of each internal name. -/
  componentIndex : Index
deriving DecidableEq, Repr

namespace Tables

/-- Tables without components. -/
def empty : Tables := ⟨[], [], [], []⟩

/-- The place of the module of an export, which is added at the end if it is new. -/
def locate (t : Tables) (e : Export) : Tables × Nat :=
  match t.moduleIndex.place? e.moduleName with
  | some place => (t, place)
  | none =>
      ({ t with
          modules := t.modules ++ [⟨e.moduleName, e.version, []⟩]
          moduleIndex := t.moduleIndex.note e.moduleName t.modules.length },
        t.modules.length)

/-- Let a component join the module of one of its exports. -/
def enlist (t : Tables) (id : ComponentId) (name : String) (e : Export) : Tables :=
  let (t, place) := t.locate e
  { t with modules := t.modules.modify place (·.receive t.components id name e.version) }

/-- Tables in which a component has joined the modules of some of its exports, and is
in the index of components, but not yet among them. -/
def partway (t : Tables) (c : Component) (entered : List Export) : Tables :=
  let id := t.components.length
  entered.foldl (fun t e => t.enlist id c.name e)
    { t with componentIndex := t.componentIndex.noteNew c.name id }

/-- Enter a component. -/
def insert (t : Tables) (c : Component) : Tables :=
  let t := t.partway c c.exports
  { t with components := t.components ++ [c] }

/-- The component of a number. -/
def component? (t : Tables) (id : ComponentId) : Option Component :=
  t.components[id]?

/-- The module of a name. -/
def module? (t : Tables) (name : String) : Option Module :=
  (t.moduleIndex.place? name).bind (t.modules[·]?)

/-- The first component of an internal name. -/
def idOf? (t : Tables) (name : String) : Option ComponentId :=
  t.componentIndex.place? name

/-! ### The indices lead to where a search would -/

/-- The indices lead to where a search would, that of components in a list of names. -/
structure Locates (t : Tables) (names : List String) : Prop where
  moduleIndex : t.moduleIndex.Locates (t.modules.map Module.name)
  componentIndex : t.componentIndex.Locates names

/-- The indices lead to where a search would. -/
abbrev Indexed (t : Tables) : Prop :=
  t.Locates (t.components.map Component.name)

theorem indexed_empty : empty.Indexed :=
  ⟨Index.locates_nil, Index.locates_nil⟩

variable {t : Tables} {names : List String}

theorem Locates.locate (locates : t.Locates names) (e : Export) :
    (t.locate e).1.Locates names := by
  unfold Tables.locate
  split
  next => exact locates
  next new =>
    refine ⟨?_, locates.componentIndex⟩
    rw [List.map_append, ← List.length_map]
    exact locates.moduleIndex.note new

theorem map_name_modify (modules : List Module) (place : Nat) (known : List Component)
    (id : ComponentId) (name version : String) :
    (modules.modify place (·.receive known id name version)).map Module.name =
      modules.map Module.name := by
  apply List.ext_getElem?
  intro i
  rw [List.getElem?_map, List.getElem?_modify, List.getElem?_map]
  cases modules[i]? with
  | none => rfl
  | some m =>
      show some (if place = i then _ else m).name = some m.name
      split <;> rfl

theorem Locates.enlist (locates : t.Locates names) (id : ComponentId) (name : String)
    (e : Export) : (t.enlist id name e).Locates names := by
  have located := locates.locate e
  refine ⟨?_, located.componentIndex⟩
  unfold Tables.enlist
  rw [map_name_modify]
  exact located.moduleIndex

theorem components_enlist (t : Tables) (id : ComponentId) (name : String) (e : Export) :
    (t.enlist id name e).components = t.components := by
  show (t.locate e).1.components = t.components
  unfold locate
  split <;> rfl

/-- The invariant of the loop over the exports of a component. -/
theorem Locates.foldl_enlist (locates : t.Locates names) (id : ComponentId) (name : String)
    (entered : List Export) :
    (entered.foldl (fun t e => t.enlist id name e) t).Locates names := by
  induction entered generalizing t with
  | nil => exact locates
  | cons e rest ih => exact ih (locates.enlist id name e)

theorem components_foldl_enlist (id : ComponentId) (name : String) (entered : List Export) :
    (entered.foldl (fun t e => t.enlist id name e) t).components = t.components := by
  induction entered generalizing t with
  | nil => rfl
  | cons e rest ih =>
      rw [List.foldl_cons, ih, components_enlist]

@[simp]
theorem components_partway (t : Tables) (c : Component) (entered : List Export) :
    (t.partway c entered).components = t.components :=
  components_foldl_enlist ..

@[simp]
theorem components_insert (t : Tables) (c : Component) :
    (t.insert c).components = t.components ++ [c] := by
  show (t.partway c c.exports).components ++ [c] = _
  rw [components_partway]

/-- While a component is being entered, the index of components is one ahead. -/
theorem Indexed.partway (indexed : t.Indexed) (c : Component) (entered : List Export) :
    (t.partway c entered).Locates (t.components.map Component.name ++ [c.name]) := by
  apply Locates.foldl_enlist
  refine ⟨indexed.moduleIndex, ?_⟩
  have noted := indexed.componentIndex.noteNew c.name
  rwa [List.length_map] at noted

theorem Indexed.insert (indexed : t.Indexed) (c : Component) : (t.insert c).Indexed := by
  have locates := indexed.partway c c.exports
  show (t.insert c).Locates ((t.insert c).components.map Component.name)
  rw [components_insert, List.map_append]
  exact ⟨locates.moduleIndex, locates.componentIndex⟩

end Tables

end QmlAssist
