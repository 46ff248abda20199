import Mathlib.Data.List.Nodup
import QmlAssist.Catalog.Basic

/-!
# Entering a component by search

Entering a component is a matter of its exports: each of them changes one module, or adds it at
the end.  The catalog finds the module by an index.  This module has the same step with a search
of the modules in its place, and shows that it changes the modules alike.

## Main Definitions

* `Catalog.enlist` — an export changes the modules, without an index.
* `Catalog.partway` — the modules while a component is being entered.

## Main Statements

* `Tables.modules_enlist`, `Tables.modules_partway` — the step with an index and the one with a
  search change the modules alike.
* `Catalog.modules_insert` — so does entering a component.
* `Catalog.find?_enlist`, `Catalog.map_name_enlist` — what an export does to the modules, taken as
  a table with names for keys.

## Design Notes

What the modules come to depends on no index.  So all that is known about them is proved about the
search, and the index has to be followed in this module only.
-/

namespace QmlAssist

namespace Module

/-- The module of an export before any component has joined it. -/
def ofExport (e : Export) : Module := ⟨e.moduleName, e.version, []⟩

@[simp]
theorem name_ofExport (e : Export) : (ofExport e).name = e.moduleName := rfl

@[simp]
theorem name_receive (m : Module) (known : List Component) (id : ComponentId)
    (name version : String) : (m.receive known id name version).name = m.name := rfl

end Module

/-! ### The step by search -/

namespace Catalog

/-- Let a component join the module of one of its exports, which is searched for by its name and
added at the end if it is new. -/
def enlist (known : List Component) (id : ComponentId) (name : String) (e : Export) :
    List Module → List Module
  | [] => [(Module.ofExport e).receive known id name e.version]
  | m :: rest =>
      if m.name = e.moduleName then m.receive known id name e.version :: rest
      else m :: enlist known id name e rest

/-- The modules while a component is being entered, after some of its exports. -/
def partway (catalog : Catalog) (c : Component) (entered : List Export) : List Module :=
  entered.foldl
    (fun modules e => enlist catalog.components catalog.components.length c.name e modules)
    catalog.modules

section Place

variable {known : List Component} {id : ComponentId} {name : String} {e : Export}

theorem enlist_of_place {modules : List Module} {place : Nat}
    (found : (modules.map Module.name).idxOf? e.moduleName = some place) :
    enlist known id name e modules =
      modules.modify place (·.receive known id name e.version) := by
  induction modules generalizing place with
  | nil => cases found
  | cons m rest ih =>
      rw [List.map_cons, List.idxOf?_cons] at found
      unfold enlist
      by_cases here : m.name = e.moduleName
      · rw [if_pos (beq_iff_eq.2 here)] at found
        obtain rfl := Option.some.inj found
        rw [if_pos here]
        rfl
      · rw [if_neg (mt beq_iff_eq.1 here)] at found
        obtain ⟨later, earlier, rfl⟩ := Option.map_eq_some_iff.1 found
        rw [if_neg here, ih earlier]
        rfl

theorem enlist_of_new {modules : List Module}
    (new : (modules.map Module.name).idxOf? e.moduleName = none) :
    enlist known id name e modules =
      (modules ++ [Module.ofExport e]).modify modules.length
        (·.receive known id name e.version) := by
  induction modules with
  | nil => rfl
  | cons m rest ih =>
      rw [List.map_cons, List.idxOf?_cons] at new
      unfold enlist
      split at new
      next => cases new
      next other =>
        rw [if_neg (mt beq_iff_eq.2 other), ih (Option.map_eq_none_iff.1 new)]
        rfl

end Place

end Catalog

/-! ### The step with an index changes the modules alike -/

namespace Tables

variable {t : Tables} {names : List String} (locates : t.Locates names)

include locates

theorem modules_enlist (id : ComponentId) (name : String) (e : Export) :
    (t.enlist id name e).modules = Catalog.enlist t.components id name e t.modules := by
  unfold enlist locate
  cases noted : t.moduleIndex.place? e.moduleName with
  | none =>
      rw [locates.moduleIndex] at noted
      exact (Catalog.enlist_of_new noted).symm
  | some place =>
      rw [locates.moduleIndex] at noted
      exact (Catalog.enlist_of_place noted).symm

theorem modules_foldl_enlist (id : ComponentId) (name : String) (entered : List Export) :
    (entered.foldl (fun t e => t.enlist id name e) t).modules =
      entered.foldl (fun modules e => Catalog.enlist t.components id name e modules)
        t.modules := by
  induction entered generalizing t with
  | nil => rfl
  | cons e rest ih =>
      rw [List.foldl_cons, ih (locates.enlist id name e), components_enlist,
        modules_enlist locates]
      rfl

end Tables

namespace Catalog

theorem modules_partway (catalog : Catalog) (c : Component) (entered : List Export) :
    (catalog.toTables.partway c entered).modules = catalog.partway c entered := by
  have locates := catalog.indexed.partway c []
  exact Tables.modules_foldl_enlist locates _ _ entered

theorem modules_insert (catalog : Catalog) (c : Component) :
    (catalog.insert c).modules = catalog.partway c c.exports :=
  catalog.modules_partway c c.exports

end Catalog

/-! ### The modules as a table -/

namespace Catalog

variable (known : List Component) (id : ComponentId) (name : String) (e : Export)

/-- An export changes the module of its name only, which is added if it is new. -/
theorem find?_enlist (modules : List Module) (key : String) :
    (enlist known id name e modules).find? (·.name == key) =
      if key = e.moduleName then
        some (((modules.find? (·.name == key)).getD (Module.ofExport e)).receive
          known id name e.version)
      else modules.find? (·.name == key) := by
  induction modules with
  | nil =>
      by_cases same : key = e.moduleName
      · simp [enlist, same]
      · simp [enlist, same, Ne.symm same]
  | cons m rest ih =>
      by_cases here : m.name = e.moduleName
      · by_cases same : key = e.moduleName
        · simp [enlist, here, same]
        · simp [enlist, here, same, Ne.symm same]
      · by_cases same : m.name = key
        · have other : key ≠ e.moduleName := same ▸ here
          simp [enlist, same, other]
        · simp [enlist, here, same, ih]

/-- The names of the modules stay as they are, and a new one comes last. -/
theorem map_name_enlist (modules : List Module) :
    (enlist known id name e modules).map Module.name =
      if e.moduleName ∈ modules.map Module.name then modules.map Module.name
      else modules.map Module.name ++ [e.moduleName] := by
  induction modules with
  | nil => simp [enlist]
  | cons m rest ih =>
      by_cases here : m.name = e.moduleName
      · simp [enlist, here]
      · rw [enlist, if_neg here, List.map_cons, ih, List.map_cons]
        by_cases later : e.moduleName ∈ rest.map Module.name
        · rw [if_pos later, if_pos (List.mem_cons_of_mem _ later)]
        · have absent : e.moduleName ∉ m.name :: rest.map Module.name := by
            rw [List.mem_cons, not_or]
            exact ⟨Ne.symm here, later⟩
          rw [if_neg later, if_neg absent, List.cons_append]

theorem nodup_enlist {modules : List Module} (nodup : (modules.map Module.name).Nodup) :
    ((enlist known id name e modules).map Module.name).Nodup := by
  rw [map_name_enlist]
  split
  next => exact nodup
  next absent =>
      rw [List.nodup_append]
      refine ⟨nodup, List.nodup_singleton _, ?_⟩
      intro key member last isLast same
      rw [List.mem_singleton.1 isLast] at same
      exact absent (same ▸ member)

/-- Where names are distinct, a module is found under its own name. -/
theorem find?_name_eq_some_iff {modules : List Module} (nodup : (modules.map Module.name).Nodup)
    {key : String} {m : Module} :
    modules.find? (·.name == key) = some m ↔ m ∈ modules ∧ m.name = key := by
  constructor
  · intro found
    have named := List.find?_some found
    exact ⟨List.mem_of_find?_eq_some found, eq_of_beq named⟩
  · rintro ⟨member, rfl⟩
    cases found : modules.find? (·.name == m.name) with
    | none =>
        have missed := List.find?_eq_none.1 found m member
        simp at missed
    | some other =>
        have named := List.find?_some found
        rw [List.inj_on_of_nodup_map nodup (List.mem_of_find?_eq_some found) member
          (eq_of_beq named)]

end Catalog

end QmlAssist
