import Mathlib.Data.List.Induction
import QmlAssist.Proofs.Catalog.Load
import QmlAssist.Proofs.Catalog.Tables

/-!
# Enrolments

Which modules a catalog has, with which components and in which versions, is decided by the
exports of its components, one after the other.  An enrolment is one such export, with all
that its module gets to see.

## Main Definitions

* `Enrolment` — an export of a component that is being entered.
* `Enrolment.all` — the enrolments of a list of components.
* `Enrolment.Before` — how an earlier enrolment looks to a later one.
* `Catalog.tabulate` — the modules after some enrolments.
* `Module.gather?` — the module that its own enrolments make.

## Main Statements

* `Catalog.modules_ofComponents` — the modules of a catalog are those of its enrolments.
* `Catalog.find?_tabulate` — each module is made by the enrolments of its name alone.
* `Module.gather?_induction` — what each enrolment keeps holds of every module.
-/

namespace QmlAssist

/-- An export of a component that is being entered. -/
structure Enrolment where
  /-- The components that were entered before this one. -/
  known : List Component
  component : Component
  via : Export
deriving DecidableEq, Repr

namespace Enrolment

/-- The number that the component gets. -/
def id (x : Enrolment) : ComponentId := x.known.length

/-- The internal name of the component. -/
def name (x : Enrolment) : String := x.component.name

def moduleName (x : Enrolment) : String := x.via.moduleName

def version (x : Enrolment) : String := x.via.version

/-- The enrolments of components that are entered after the known ones. -/
def allAfter (known : List Component) : List Component → List Enrolment
  | [] => []
  | c :: rest => c.exports.map (⟨known, c, ·⟩) ++ allAfter (known ++ [c]) rest

/-- The enrolments of a list of components, in order. -/
def all (components : List Component) : List Enrolment :=
  allAfter [] components

/-- How an earlier enrolment looks to a later one: its component is known already, or it is
the one that is being entered. -/
def Before (y x : Enrolment) : Prop :=
  x.known[y.id]? = some y.component ∨ y.known = x.known ∧ y.component = x.component

theorem Before.id_le {y x : Enrolment} (before : y.Before x) : y.id ≤ x.id := by
  rcases before with known | ⟨same, -⟩
  · exact Nat.le_of_lt (List.getElem?_eq_some_iff.1 known).1
  · exact Nat.le_of_eq (congrArg List.length same)

theorem allAfter_append (known components more : List Component) :
    allAfter known (components ++ more) =
      allAfter known components ++ allAfter (known ++ components) more := by
  induction components generalizing known with
  | nil => simp [allAfter]
  | cons first rest ih => simp [allAfter, ih]

theorem all_append (components more : List Component) :
    all (components ++ more) = all components ++ allAfter components more :=
  allAfter_append [] components more

theorem all_concat (components : List Component) (c : Component) :
    all (components ++ [c]) = all components ++ c.exports.map (⟨components, c, ·⟩) := by
  rw [all_append, allAfter, allAfter, List.append_nil]

/-- The enrolments are the exports of the components, each with the components in front. -/
theorem mem_all_iff {components : List Component} {x : Enrolment} :
    x ∈ all components ↔
      x.known = components.take x.id ∧ components[x.id]? = some x.component ∧
        x.via ∈ x.component.exports := by
  induction components using List.reverseRecOn with
  | nil => simp [all, allAfter]
  | append_singleton components c ih =>
      rw [all_concat, List.mem_append, ih, List.mem_map]
      constructor
      · rintro (⟨front, here, member⟩ | ⟨e, member, rfl⟩)
        · have inside : x.id < components.length := (List.getElem?_eq_some_iff.1 here).1
          rw [List.take_append_of_le_length (Nat.le_of_lt inside),
            List.getElem?_append_left inside]
          exact ⟨front, here, member⟩
        · simpa [id] using member
      · rintro ⟨front, here, member⟩
        by_cases inside : x.id < components.length
        · rw [List.take_append_of_le_length (Nat.le_of_lt inside)] at front
          rw [List.getElem?_append_left inside] at here
          exact Or.inl ⟨front, here, member⟩
        · -- only the last component is left
          have last : x.id = components.length := by
            have bound := (List.getElem?_eq_some_iff.1 here).1
            rw [List.length_append, List.length_singleton] at bound
            exact Nat.le_antisymm (Nat.le_of_lt_succ bound) (Nat.not_lt.1 inside)
          rw [last, List.take_left'] at front
          · rw [last, List.getElem?_concat_length] at here
            obtain ⟨known, component, via⟩ := x
            obtain rfl : c = component := Option.some.inj here
            obtain rfl : known = components := front
            exact Or.inr ⟨via, member, rfl⟩
          · rfl

/-- Every enrolment sees those before it as its predecessors. -/
theorem pairwise_all (components : List Component) : (all components).Pairwise Before := by
  induction components using List.reverseRecOn with
  | nil => exact List.Pairwise.nil
  | append_singleton components c ih =>
      rw [all_concat, List.pairwise_append]
      refine ⟨ih, ?_, ?_⟩
      · rw [List.pairwise_map]
        exact List.pairwise_of_forall fun _ _ => Or.inr ⟨rfl, rfl⟩
      · intro y earlier x later
        obtain ⟨e, -, rfl⟩ := List.mem_map.1 later
        exact Or.inl (mem_all_iff.1 earlier).2.1

end Enrolment

/-! ### The modules after some enrolments -/

namespace Catalog

/-- The modules after some enrolments. -/
def tabulate (enrolments : List Enrolment) : List Module :=
  enrolments.foldl (fun modules x => enlist x.known x.id x.name x.via modules) []

theorem tabulate_concat (enrolments : List Enrolment) (x : Enrolment) :
    tabulate (enrolments ++ [x]) = enlist x.known x.id x.name x.via (tabulate enrolments) :=
  List.foldl_concat ..

theorem partway_eq_tabulate {catalog : Catalog} {enrolments : List Enrolment}
    (modules : catalog.modules = tabulate enrolments) (c : Component) (entered : List Export) :
    catalog.partway c entered =
      tabulate (enrolments ++ entered.map (⟨catalog.components, c, ·⟩)) := by
  rw [partway, modules, tabulate, tabulate, List.foldl_append, List.foldl_map]
  rfl

/-- The modules of a catalog are those of its enrolments. -/
theorem modules_ofComponents (components : List Component) :
    (ofComponents components).modules = tabulate (Enrolment.all components) := by
  induction components using List.reverseRecOn with
  | nil => rfl
  | append_singleton components c ih =>
      rw [ofComponents_concat, modules_insert, partway_eq_tabulate ih, components_ofComponents,
        Enrolment.all_concat]

theorem nodup_tabulate (enrolments : List Enrolment) :
    ((tabulate enrolments).map Module.name).Nodup := by
  induction enrolments using List.reverseRecOn with
  | nil => exact List.nodup_nil
  | append_singleton enrolments x ih =>
      rw [tabulate_concat]
      exact nodup_enlist _ _ _ _ ih

end Catalog

/-! ### One module -/

namespace Module

/-- The module after one more enrolment. -/
def enrol (m : Module) (x : Enrolment) : Module :=
  m.receive x.known x.id x.name x.version

/-- The module that its enrolments make.  Without any there is none. -/
def gather? : List Enrolment → Option Module
  | [] => none
  | x :: rest => some ((x :: rest).foldl enrol (ofExport x.via))

theorem gather?_concat (enrolments : List Enrolment) (x : Enrolment) :
    gather? (enrolments ++ [x]) =
      some (((gather? enrolments).getD (ofExport x.via)).enrol x) := by
  cases enrolments with
  | nil => rfl
  | cons first rest =>
      rw [List.cons_append, gather?, ← List.cons_append, List.foldl_concat]
      rfl

theorem gather?_eq_none_iff {enrolments : List Enrolment} :
    gather? enrolments = none ↔ enrolments = [] := by
  cases enrolments with
  | nil => simp [gather?]
  | cons first rest => simp [gather?]

/-- What holds of a module after its first enrolment, and is kept by every further one,
holds of every module. -/
theorem gather?_induction {P : Module → List Enrolment → Prop}
    (first : ∀ x : Enrolment, P ((ofExport x.via).enrol x) [x])
    (further : ∀ (m : Module) (enrolments : List Enrolment) (x : Enrolment),
      P m enrolments → (∀ y ∈ enrolments, y.Before x) → P (m.enrol x) (enrolments ++ [x]))
    {enrolments : List Enrolment} (ordered : enrolments.Pairwise Enrolment.Before) {m : Module}
    (gathered : gather? enrolments = some m) : P m enrolments := by
  induction enrolments using List.reverseRecOn generalizing m with
  | nil => cases gathered
  | append_singleton enrolments x ih =>
      obtain ⟨earlier, -, before⟩ := List.pairwise_append.1 ordered
      rw [gather?_concat] at gathered
      obtain rfl := Option.some.inj gathered
      cases made : gather? enrolments with
      | none =>
          rw [gather?_eq_none_iff.1 made]
          exact first x
      | some m =>
          exact further m enrolments x (ih earlier made) fun y member =>
            before y member x List.mem_cons_self

end Module

namespace Catalog

/-- Each module is made by the enrolments of its name alone. -/
theorem find?_tabulate (enrolments : List Enrolment) (key : String) :
    (tabulate enrolments).find? (·.name == key) =
      Module.gather? (enrolments.filter (·.moduleName == key)) := by
  induction enrolments using List.reverseRecOn with
  | nil => rfl
  | append_singleton enrolments x ih =>
      rw [tabulate_concat, find?_enlist, List.filter_append, ih]
      by_cases here : key = x.via.moduleName
      · have into : [x].filter (·.moduleName == key) = [x] := by simp [here, Enrolment.moduleName]
        rw [if_pos here, into, Module.gather?_concat]
        rfl
      · have into : [x].filter (·.moduleName == key) = [] := by
          simpa [Enrolment.moduleName] using Ne.symm here
        rw [if_neg here, into, List.append_nil]

/-- The enrolments into a module of a catalog. -/
def enrolmentsInto (components : List Component) (key : String) : List Enrolment :=
  (Enrolment.all components).filter (·.moduleName == key)

theorem module?_ofComponents (components : List Component) (key : String) :
    (ofComponents components).module? key = Module.gather? (enrolmentsInto components key) := by
  rw [module?_eq_find?, modules_ofComponents, find?_tabulate]
  rfl

theorem nodup_ofComponents (components : List Component) :
    ((ofComponents components).modules.map Module.name).Nodup := by
  rw [modules_ofComponents]
  exact nodup_tabulate _

theorem module?_of_mem {components : List Component} {m : Module}
    (member : m ∈ (ofComponents components).modules) :
    (ofComponents components).module? m.name = some m :=
  (module?_eq_find? _ _).trans
    ((find?_name_eq_some_iff (nodup_ofComponents components)).2 ⟨member, rfl⟩)

end Catalog

end QmlAssist
