import QmlAssist.Catalog.Tables

/-!
# The catalog

The catalog is the table of all known components and of the modules that they are
exported into.  It only grows: a component gets the next free number, and joins
every module that it has an export into, unless a component of the same internal
name is there already.

## Main Definitions

* `Catalog` — components in order of insertion and modules in order of appearance,
  with indices that lead to them.
* `Catalog.insert` — enter a component.

## Main Statements

* `Catalog.module?_eq_find?`, `Catalog.idOf?_eq_findIdx?` — a look-up gives what a
  search of the modules or of the components finds.
-/

namespace QmlAssist

/-- All known components and modules. -/
structure Catalog extends Tables where
  indexed : toTables.Indexed
deriving DecidableEq, Repr

namespace Catalog

/-- The catalog without components. -/
def empty : Catalog := ⟨.empty, Tables.indexed_empty⟩

/-- Enter a component. -/
def insert (catalog : Catalog) (c : Component) : Catalog :=
  ⟨catalog.toTables.insert c, catalog.indexed.insert c⟩

@[simp]
theorem components_insert (catalog : Catalog) (c : Component) :
    (catalog.insert c).components = catalog.components ++ [c] :=
  catalog.toTables.components_insert c

variable (catalog : Catalog) (name : String)

theorem module?_eq_find? :
    catalog.module? name = catalog.modules.find? (·.name == name) := by
  unfold Tables.module?
  rw [catalog.indexed.moduleIndex, List.idxOf?, List.findIdx?_map,
    List.find?_eq_bind_findIdx?_getElem?]
  rfl

theorem idOf?_eq_findIdx? :
    catalog.idOf? name = catalog.components.findIdx? (·.name == name) := by
  unfold Tables.idOf?
  rw [catalog.indexed.componentIndex, List.idxOf?, List.findIdx?_map]
  rfl

end Catalog

/-- Whether a module serves an import with the given clause. -/
def Module.serves (m : Module) (clause : String) : Bool :=
  Version.satisfies m.version clause

end QmlAssist
