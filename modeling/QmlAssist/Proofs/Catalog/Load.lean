import Mathlib.Data.List.Forall2
import Mathlib.Data.List.Nodup
import QmlAssist.Catalog.Descriptor

/-!
# What a load does

A load enters all components that its descriptors describe, one after the other, and fails
if one of the descriptors cannot be read.

## Main Definitions

* `Descriptor.components`, `Descriptor.exportTexts` — what a descriptor describes.
* `Catalog.ofComponents` — the catalog of a list of components.

## Main Statements

* `mapM_eq_ok_iff`, `mapM_eq_error_iff` — a traversal fails at the first item that fails.
* `Catalog.load_eq_ok_iff` — when a load succeeds, and with which catalog.
-/

namespace QmlAssist

/-! ### Traversals that can fail -/

section Traversal

variable {α β ε : Type} {f : α → Except ε β}

theorem mapM_eq_ok_iff {xs : List α} {ys : List β} :
    xs.mapM f = .ok ys ↔ List.Forall₂ (fun x y => f x = .ok y) xs ys := by
  induction xs generalizing ys with
  | nil => simp [pure, Except.pure, eq_comm]
  | cons x rest ih =>
      rw [List.mapM_cons, List.forall₂_cons_left_iff]
      cases first : f x with
      | error e => simp [bind, Except.bind]
      | ok y =>
          cases others : rest.mapM f with
          | error e => simp [bind, Except.bind, ← ih, others]
          | ok ys' => simp [bind, Except.bind, pure, Except.pure, ← ih, others, eq_comm]

/-- A traversal fails at the first item that fails. -/
theorem mapM_eq_error_iff {xs : List α} {e : ε} :
    xs.mapM f = .error e ↔ ∃ front x back, xs = front ++ x :: back ∧
      (∀ earlier ∈ front, ∃ y, f earlier = .ok y) ∧ f x = .error e := by
  induction xs with
  | nil => simp [pure, Except.pure]
  | cons x rest ih =>
      rw [List.mapM_cons]
      cases first : f x with
      | error e' =>
          constructor
          · rintro ⟨⟩
            exact ⟨[], x, rest, rfl, by simp, first⟩
          · rintro ⟨front, failing, back, split, good, failed⟩
            cases front with
            | nil =>
                obtain ⟨rfl, -⟩ := List.cons.inj split
                obtain rfl := Except.error.inj (first.symm.trans failed)
                rfl
            | cons other front =>
                obtain ⟨rfl, -⟩ := List.cons.inj split
                obtain ⟨y, ok⟩ := good x List.mem_cons_self
                cases first.symm.trans ok
      | ok y =>
          have later : (Except.ok y >>= fun y => rest.mapM f >>= fun ys => pure (y :: ys)) =
              .error e ↔ rest.mapM f = .error e := by
            cases rest.mapM f <;> simp [bind, Except.bind, pure, Except.pure]
          rw [later, ih]
          constructor
          · rintro ⟨front, failing, back, rfl, good, failed⟩
            exact ⟨x :: front, failing, back, rfl,
              List.forall_mem_cons.2 ⟨⟨y, first⟩, good⟩, failed⟩
          · rintro ⟨front, failing, back, split, good, failed⟩
            cases front with
            | nil =>
                obtain ⟨rfl, -⟩ := List.cons.inj split
                cases first.symm.trans failed
            | cons other front =>
                obtain ⟨-, rfl⟩ := List.cons.inj split
                exact ⟨front, failing, back, rfl, (List.forall_mem_cons.1 good).2, failed⟩

end Traversal

/-! ### What descriptors describe -/

namespace Record

/-- The exports of a component are the well-formed ones of its record. -/
theorem exports_of_component? {record : Record} {c : Component}
    (described : record.component? = some c) :
    c.exports = record.exports.filterMap Export.parse? := by
  unfold component? at described
  split at described
  next => cases described
  next primary further parsed =>
      obtain rfl := Option.some.inj described
      exact parsed.symm

/-- A record without a component has no well-formed export. -/
theorem parse?_of_component?_eq_none {record : Record} (missing : record.component? = none) :
    record.exports.filterMap Export.parse? = [] := by
  unfold component? at missing
  split at missing
  next parsed => exact parsed
  next => cases missing

end Record

namespace Descriptor

/-- The components that a descriptor describes, in order.  A text that cannot be read
describes none. -/
def components (d : Descriptor) : List Component :=
  match d.records with
  | .ok records => records.filterMap Component.ofJson?
  | .error _ => []

theorem components_of_ok {d : Descriptor} {components : List Component}
    (described : d.records.map (List.filterMap Component.ofJson?) = .ok components) :
    (∃ records, d.records = .ok records) ∧ d.components = components := by
  rw [Descriptor.components]
  cases read : d.records with
  | error e =>
      rw [read] at described
      cases described
  | ok records =>
      rw [read] at described
      exact ⟨⟨records, rfl⟩, Except.ok.inj described⟩

/-- The export texts of all records of a descriptor, well-formed or not. -/
def exportTexts (d : Descriptor) : List String :=
  match d.records with
  | .ok records => (records.filterMap Record.decode?).flatMap Record.exports
  | .error _ => []

/-- The exports of the described components are the well-formed export texts. -/
theorem flatMap_exports_components (d : Descriptor) :
    d.components.flatMap Component.exports = d.exportTexts.filterMap Export.parse? := by
  rw [components, exportTexts]
  cases d.records with
  | error e => rfl
  | ok records =>
      induction records with
      | nil => rfl
      | cons json rest ih =>
          cases decoded : Record.decode? json with
          | none =>
              have skipped : Component.ofJson? json = none := by
                rw [Component.ofJson?, decoded, Option.bind_none]
              simpa [skipped, decoded] using ih
          | some record =>
              cases described : record.component? with
              | none =>
                  have skipped : Component.ofJson? json = none := by
                    rw [Component.ofJson?, decoded, Option.bind_some, described]
                  simpa [skipped, decoded, Record.parse?_of_component?_eq_none described] using ih
              | some c =>
                  have entered : Component.ofJson? json = some c := by
                    rw [Component.ofJson?, decoded, Option.bind_some, described]
                  simpa [entered, decoded, Record.exports_of_component? described] using ih

end Descriptor

namespace Catalog

/-- The catalog of a list of components. -/
def ofComponents (components : List Component) : Catalog :=
  components.foldl insert empty

theorem ofComponents_concat (components : List Component) (c : Component) :
    ofComponents (components ++ [c]) = (ofComponents components).insert c :=
  List.foldl_concat ..

theorem components_foldl_insert (start : Catalog) (components : List Component) :
    (components.foldl insert start).components = start.components ++ components := by
  induction components generalizing start with
  | nil => simp
  | cons c rest ih =>
      rw [List.foldl_cons, ih, components_insert, List.append_assoc]
      rfl

@[simp]
theorem components_ofComponents (components : List Component) :
    (ofComponents components).components = components :=
  components_foldl_insert empty components

/-! ### Loading -/

theorem foldlM_insertDescriptor_eq_ok_iff {descriptors : List Descriptor}
    {start catalog : Catalog} :
    descriptors.foldlM insertDescriptor start = .ok catalog ↔
      (∀ d ∈ descriptors, ∃ records, d.records = .ok records) ∧
        catalog = (descriptors.flatMap Descriptor.components).foldl insert start := by
  induction descriptors generalizing start with
  | nil => simp [pure, Except.pure, eq_comm]
  | cons d rest ih =>
      cases read : d.records with
      | error e =>
          have failed : start.insertDescriptor d = .error e := by
            rw [insertDescriptor, read, Except.map]
          rw [List.foldlM_cons, failed]
          constructor
          · rintro ⟨⟩
          · rintro ⟨readable, -⟩
            obtain ⟨records, ok⟩ := readable d List.mem_cons_self
            cases read.symm.trans ok
      | ok records =>
          have entered : start.insertDescriptor d = .ok (d.components.foldl insert start) := by
            rw [insertDescriptor, read, Except.map, insertRecords, Descriptor.components, read]
          have readable : ∃ records, d.records = .ok records := ⟨records, read⟩
          rw [List.foldlM_cons, entered]
          refine ih.trans ?_
          simp only [List.forall_mem_cons, readable, true_and, List.flatMap_cons,
            List.foldl_append]

/-- A load succeeds exactly if all descriptors can be read, and gives the catalog of the
components that they describe. -/
theorem load_eq_ok_iff {descriptors : List Descriptor} {catalog : Catalog} :
    load descriptors = .ok catalog ↔
      (∀ d ∈ descriptors, ∃ records, d.records = .ok records) ∧
        catalog = ofComponents (descriptors.flatMap Descriptor.components) :=
  foldlM_insertDescriptor_eq_ok_iff

end Catalog

/-! ### A small family of components -/

namespace Component

/-- A component with two exports into one module, which inherits from another one. -/
def item : Component where
  name := "Item"
  primary := ⟨["M"], "Item", "2"⟩
  further := [⟨["M"], "Item", "3"⟩]
  prototype := some "Base"
  properties := []
  methods := ["x"]
  signals := []
  enums := []

/-- Another component of the same internal name. -/
def secondItem : Component where
  name := "Item"
  primary := ⟨["M"], "I", "1"⟩
  further := []
  prototype := none
  properties := []
  methods := []
  signals := []
  enums := []

/-- The component that is inherited from. -/
def base : Component where
  name := "Base"
  primary := ⟨["M"], "B", "4"⟩
  further := []
  prototype := none
  properties := []
  methods := ["y"]
  signals := []
  enums := []

end Component

namespace Descriptor

/-- The descriptor of the component that inherits. -/
def ofItem : Descriptor where
  name := "item.json"
  content := "\x7b\"components\":[\x7b\"name\":\"Item\",\"exports\":[\"M/Item 2\",\"M/Item 3\"]," ++
    "\"prototype\":\"Base\",\"methods\":[[\"x\"]]\x7d]\x7d"

/-- The descriptor of the second component of that internal name. -/
def ofSecondItem : Descriptor where
  name := "second.json"
  content := "\x7b\"components\":[\x7b\"name\":\"Item\",\"exports\":[\"M/I 1\"]\x7d]\x7d"

/-- The descriptor of the component that is inherited from. -/
def ofBase : Descriptor where
  name := "base.json"
  content := "\x7b\"components\":[\x7b\"name\":\"Base\",\"exports\":[\"M/B 4\"]," ++
    "\"methods\":[[\"y\"]]\x7d]\x7d"

theorem read_ofItem :
    (∃ records, ofItem.records = .ok records) ∧ ofItem.components = [.item] :=
  components_of_ok (by decide +kernel)

theorem read_ofSecondItem :
    (∃ records, ofSecondItem.records = .ok records) ∧ ofSecondItem.components = [.secondItem] :=
  components_of_ok (by decide +kernel)

theorem read_ofBase :
    (∃ records, ofBase.records = .ok records) ∧ ofBase.components = [.base] :=
  components_of_ok (by decide +kernel)

end Descriptor

namespace Catalog

open Descriptor

theorem load_ofItem : load [.ofItem] = .ok (ofComponents [.item]) := by
  rw [load_eq_ok_iff]
  simp [read_ofItem]

theorem load_family :
    load ([.ofItem] ++ [.ofSecondItem, .ofBase]) =
      .ok (ofComponents [.item, .secondItem, .base]) := by
  rw [load_eq_ok_iff]
  simp [read_ofItem, read_ofSecondItem, read_ofBase]

end Catalog

end QmlAssist
