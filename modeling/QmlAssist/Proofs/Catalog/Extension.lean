import QmlAssist.Completion.Members
import QmlAssist.Proofs.Catalog.WellFormed

/-!
# Loading more descriptors

What a catalog says is not changed by descriptors that are loaded after its own: numbers and
names mean what they meant, modules and their lists only grow at the end, and so do the
members of every component.

## Main Statements

* `Catalog.isPrefix_tabulate` — further enrolments add modules at the end.
* `Module.exists_gather?_append` — further enrolments add components at the end of a module.
* `Catalog.members_isPrefix` — further components add inherited members at the end.
* `Catalog.load_append_isPrefix` — all this for loads.

## Design Notes

A component may inherit from one that is described only later.  Until then the way up its
prototypes ends there, and afterwards it goes on from there; the part that was walked before
stays as it was, since of several components of one name the first is taken
(`Component.ancestors_isPrefix`).
-/

namespace QmlAssist

/-! ### Modules -/

namespace Module

theorem isPrefix_components_enrol (m : Module) (x : Enrolment) :
    m.components <+: (m.enrol x).components := by
  rw [components_enrol]
  split
  · exact List.prefix_rfl
  · exact List.prefix_append _ _

/-- Further enrolments add components at the end of a module. -/
theorem exists_gather?_append {enrolments : List Enrolment} {m : Module}
    (gathered : gather? enrolments = some m) (more : List Enrolment) :
    ∃ m', gather? (enrolments ++ more) = some m' ∧ m.components <+: m'.components := by
  induction more using List.reverseRecOn with
  | nil => exact ⟨m, by rwa [List.append_nil], List.prefix_rfl⟩
  | append_singleton more x ih =>
      obtain ⟨m', found, grown⟩ := ih
      refine ⟨m'.enrol x, ?_, grown.trans (m'.isPrefix_components_enrol x)⟩
      rw [← List.append_assoc, gather?_concat, found, Option.getD_some]

end Module

namespace Catalog

/-- Further enrolments add modules at the end. -/
theorem isPrefix_tabulate (enrolments more : List Enrolment) :
    (tabulate enrolments).map Module.name <+: (tabulate (enrolments ++ more)).map Module.name := by
  induction more using List.reverseRecOn with
  | nil => simp only [List.append_nil, List.prefix_rfl]
  | append_singleton more x ih =>
      refine ih.trans ?_
      rw [← List.append_assoc, tabulate_concat, map_name_enlist]
      split
      · exact List.prefix_rfl
      · exact List.prefix_append _ _

theorem isPrefix_names_ofComponents (components more : List Component) :
    (ofComponents components).modules.map Module.name <+:
      (ofComponents (components ++ more)).modules.map Module.name := by
  rw [modules_ofComponents, modules_ofComponents, Enrolment.all_append]
  exact isPrefix_tabulate _ _

theorem exists_module?_append {components : List Component} {key : String} {m : Module}
    (found : (ofComponents components).module? key = some m) (more : List Component) :
    ∃ m', (ofComponents (components ++ more)).module? key = some m' ∧
      m.components <+: m'.components := by
  rw [module?_ofComponents] at found ⊢
  rw [enrolmentsInto, Enrolment.all_append, List.filter_append]
  exact Module.exists_gather?_append found _

end Catalog

/-! ### Members -/

theorem Candidate.isPrefix_foldl_pushNew (items more : List Candidate) :
    items <+: more.foldl pushNew items := by
  induction more generalizing items with
  | nil => exact List.prefix_rfl
  | cons candidate rest ih =>
      have pushed : items <+: pushNew items candidate := by
        rw [pushNew]
        split
        · exact List.prefix_rfl
        · exact List.prefix_append _ _
      exact pushed.trans (ih _)

namespace Component

theorem otherThan_append (name : String) (components more : List Component) :
    otherThan name (components ++ more) = otherThan name components ++ otherThan name more :=
  List.filter_append ..

/-- A parent that is found is found also if there are more components after it. -/
theorem parent?_append {unvisited : List Component} {c parent : Component}
    (found : c.parent? unvisited = some parent) (more : List Component) :
    c.parent? (unvisited ++ more) = some parent := by
  obtain ⟨name, prototype, named⟩ := Option.bind_eq_some_iff.1 found
  rw [parent?, prototype, Option.bind_some, List.find?_append, named, Option.some_or]

theorem ancestors_of_none {unvisited : List Component} {c : Component}
    (missing : c.parent? unvisited = none) : c.ancestors unvisited = [] := by
  rw [ancestors]
  split
  next => rfl
  next parent found => cases missing.symm.trans found

theorem ancestors_of_some {unvisited : List Component} {c parent : Component}
    (found : c.parent? unvisited = some parent) :
    c.ancestors unvisited = parent :: parent.ancestors (otherThan parent.name unvisited) := by
  rw [ancestors]
  split
  next missing => cases found.symm.trans missing
  next other again =>
      obtain rfl : parent = other := Option.some.inj (found.symm.trans again)
      rfl

/-- With more components, the way up the prototypes goes on where it ended.  The induction is
along the way. -/
theorem ancestors_isPrefix (unvisited more : List Component) (c : Component) :
    c.ancestors unvisited <+: c.ancestors (unvisited ++ more) := by
  induction unvisited, c using ancestors.induct generalizing more with
  | case1 unvisited c missing =>
      rw [ancestors_of_none missing]
      exact List.nil_prefix
  | case2 unvisited c parent found ih =>
      rw [ancestors_of_some found, ancestors_of_some (parent?_append found more),
        otherThan_append]
      exact List.cons_prefix_cons.2 ⟨rfl, ih _⟩

end Component

namespace Catalog

theorem lineage_isPrefix {base extended : Catalog}
    (front : base.components <+: extended.components) (c : Component) :
    base.lineage c <+: extended.lineage c := by
  obtain ⟨more, whole⟩ := front
  rw [lineage, lineage, ← whole, Component.otherThan_append]
  exact List.cons_prefix_cons.2 ⟨rfl, Component.ancestors_isPrefix _ _ _⟩

/-- With more components, further members are inherited, which come last. -/
theorem members_isPrefix {base extended : Catalog}
    (front : base.components <+: extended.components) (c : Component) :
    base.members c <+: extended.members c := by
  obtain ⟨further, whole⟩ := lineage_isPrefix front c
  rw [members, members, appendMembers, appendMembers, ← whole, List.flatMap_append,
    List.foldl_append]
  exact Candidate.isPrefix_foldl_pushNew _ _

/-! ### Loads -/

theorem component?_of_isPrefix {base extended : Catalog}
    (front : base.components <+: extended.components) {id : ComponentId} {c : Component}
    (found : base.component? id = some c) : extended.component? id = some c := by
  obtain ⟨more, whole⟩ := front
  have inside := (List.getElem?_eq_some_iff.1 found).1
  rw [Tables.component?, ← whole, List.getElem?_append_left inside]
  exact found

theorem idOf?_of_isPrefix {base extended : Catalog}
    (front : base.components <+: extended.components) {name : String} {id : ComponentId}
    (found : base.idOf? name = some id) : extended.idOf? name = some id := by
  obtain ⟨more, whole⟩ := front
  rw [idOf?_eq_findIdx?] at found
  rw [idOf?_eq_findIdx?, ← whole, List.findIdx?_append, found, Option.some_or]

/-- **More descriptors change nothing that was loaded before.**  Numbers and internal names
mean the same, the modules come first and in the same order, and both their lists and the
members of every component are continued. -/
theorem load_append_isPrefix {descriptors more : List Descriptor} {base extended : Catalog}
    (loaded : load descriptors = .ok base)
    (loadedMore : load (descriptors ++ more) = .ok extended) :
    (∀ id c, base.component? id = some c → extended.component? id = some c) ∧
      (∀ name id, base.idOf? name = some id → extended.idOf? name = some id) ∧
      base.modules.map Module.name <+: extended.modules.map Module.name ∧
      (∀ m ∈ base.modules, ∃ m', extended.module? m.name = some m' ∧
        m.components <+: m'.components) ∧
      ∀ id c, base.component? id = some c → base.members c <+: extended.members c := by
  obtain ⟨-, rfl⟩ := load_eq_ok_iff.1 loaded
  obtain ⟨-, rfl⟩ := load_eq_ok_iff.1 loadedMore
  rw [List.flatMap_append]
  have front : (ofComponents (descriptors.flatMap Descriptor.components)).components <+:
      (ofComponents (descriptors.flatMap Descriptor.components ++
        more.flatMap Descriptor.components)).components := by
    rw [components_ofComponents, components_ofComponents]
    exact List.prefix_append _ _
  refine ⟨?_, ?_, isPrefix_names_ofComponents _ _, ?_, ?_⟩
  · intro id c found
    exact component?_of_isPrefix front found
  · intro name id found
    exact idOf?_of_isPrefix front found
  · intro m member
    exact exists_module?_append (module?_of_mem member) _
  · intro id c _
    exact members_isPrefix front c

/-- A later descriptor brings the component that the first one lets another inherit from. -/
theorem load_append_isPrefix_family :
    let base := ofComponents [.item]
    let extended := ofComponents [.item, .secondItem, .base]
    load [.ofItem] = .ok base ∧ load ([.ofItem] ++ [.ofSecondItem, .ofBase]) = .ok extended ∧
      base.members .item = [⟨"x", .method, some "Item"⟩] ∧
      extended.members .item = [⟨"x", .method, some "Item"⟩, ⟨"y", .method, some "B"⟩] ∧
      base.members .item <+: extended.members .item := by
  intro base extended
  refine ⟨load_ofItem, load_family, by decide +kernel, by decide +kernel, ?_⟩
  exact (load_append_isPrefix load_ofItem load_family).2.2.2.2 0 _ rfl

end Catalog

end QmlAssist
