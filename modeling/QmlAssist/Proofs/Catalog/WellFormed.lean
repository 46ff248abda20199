import Mathlib.Order.Bounds.Defs
import Mathlib.Order.WellFounded
import QmlAssist.Proofs.Catalog.Enrolment

/-!
# Well-formed catalogs

Whatever components are entered, a catalog keeps its tables in order: every name leads to
one module and every internal name to its first component, and a module lists exactly the
first component of each internal name that is exported into it.

## Main Definitions

* `Component.ExportsInto` — a component has an export into a module.
* `Tables.WellFormed` — what holds of the tables of every catalog.
* `Module.Gathers` — a module lists the first of each internal name among its enrolments.

## Main Statements

* `Module.Gathers.enrol` — an enrolment keeps the list of a module in order.
* `Catalog.wellFormed_ofComponents` — every catalog that is built is well-formed.
* `Catalog.wellFormed_insert_load` — so are tables after every insertion and every load.

## Design Notes

A component joins a module unless its number or its internal name is there already.  For the
name, the component of each listed number is looked up among the known ones, and the one
that is being entered is not known yet.  That this finds a name exactly if an earlier
enrolment had it (`Module.Gathers.hasMember_iff`) is what the order of the list rests on.
-/

namespace QmlAssist

/-- A component has an export into a module. -/
def Component.ExportsInto (c : Component) (key : String) : Prop :=
  ∃ e ∈ c.exports, e.moduleName = key

namespace Tables

/-- The tables of a list of components. -/
def ofComponents (components : List Component) : Tables :=
  components.foldl insert empty

theorem ofComponents_concat (components : List Component) (c : Component) :
    ofComponents (components ++ [c]) = (ofComponents components).insert c :=
  List.foldl_concat ..

/-- What holds of the tables of every catalog. -/
structure WellFormed (t : Tables) : Prop where
  /-- The names of the modules are distinct. -/
  names_nodup : (t.modules.map Module.name).Nodup
  /-- A name leads to the module of that name, -/
  module?_eq_some_iff : ∀ key m, t.module? key = some m ↔ m ∈ t.modules ∧ m.name = key
  /-- or to none if there is no such module. -/
  module?_eq_none_iff : ∀ key, t.module? key = none ↔ ∀ m ∈ t.modules, m.name ≠ key
  /-- No index leads past the end of its list. -/
  moduleIndex_inside : ∀ key place,
    t.moduleIndex.place? key = some place → place < t.modules.length
  /-- An internal name leads to the least number of a component of that name, -/
  idOf?_eq_some_iff : ∀ name id, t.idOf? name = some id ↔
    IsLeast { i | ∃ c, t.component? i = some c ∧ c.name = name } id
  /-- or to none if there is no such component. -/
  idOf?_eq_none_iff : ∀ name, t.idOf? name = none ↔ ∀ c ∈ t.components, c.name ≠ name
  /-- Every component has an export, -/
  exports_ne_nil : ∀ c ∈ t.components, c.exports ≠ []
  /-- and every module a component. -/
  components_ne_nil : ∀ m ∈ t.modules, m.components ≠ []
  /-- The numbers that a module lists increase, -/
  components_increasing : ∀ m ∈ t.modules, m.components.Pairwise (· < ·)
  /-- are numbers of components, -/
  components_inside : ∀ m ∈ t.modules, ∀ id ∈ m.components, id < t.components.length
  /-- and belong to components of distinct internal names. -/
  components_names : ∀ m ∈ t.modules, m.components.Pairwise fun i j =>
    (t.component? i).map Component.name ≠ (t.component? j).map Component.name
  /-- A module lists exactly the first component of each internal name that is exported
  into it. -/
  mem_components_iff : ∀ key id, (∃ m, t.module? key = some m ∧ id ∈ m.components) ↔
    ∃ c, t.component? id = some c ∧
      IsLeast { i | ∃ c', t.component? i = some c' ∧ c'.name = c.name ∧
        c'.ExportsInto key } id

/-- An index of modules leads to no place past their end. -/
theorem Locates.lt_length {t : Tables} {names : List String} (locates : t.Locates names)
    {key : String} {place : Nat} (noted : t.moduleIndex.place? key = some place) :
    place < t.modules.length := by
  have here := locates.moduleIndex.getElem? noted
  have inside := (List.getElem?_eq_some_iff.1 here).1
  rwa [List.length_map] at inside

end Tables

/-! ### The list of one module -/

namespace Enrolment

/-- A test for the number and then for the internal name tells whether an earlier enrolment
had the same name. -/
theorem Before.test_eq {y x : Enrolment} (before : y.Before x) :
    (y.id == x.id || (x.known[y.id]?.any fun c => c.name == x.name)) = (y.name == x.name) := by
  rcases before with known | ⟨sameKnown, same⟩
  · have lt : y.id < x.id := (List.getElem?_eq_some_iff.1 known).1
    rw [known, beq_eq_false_iff_ne.2 (Nat.ne_of_lt lt)]
    rfl
  · have sameId : y.id = x.id := congrArg List.length sameKnown
    have sameName : y.name = x.name := congrArg Component.name same
    rw [beq_iff_eq.2 sameId, beq_iff_eq.2 sameName]
    rfl

theorem Before.id_lt_of_name_ne {y x : Enrolment} (before : y.Before x)
    (other : y.name ≠ x.name) : y.id < x.id := by
  refine Nat.lt_of_le_of_ne before.id_le fun sameId => other ?_
  have test := before.test_eq
  rw [beq_iff_eq.2 sameId, Bool.true_or] at test
  exact eq_of_beq test.symm

/-- An enrolment that comes first among those of its internal name. -/
def IsFirst (x : Enrolment) (enrolments : List Enrolment) : Prop :=
  x ∈ enrolments ∧ ∀ y ∈ enrolments, y.name = x.name → x.id ≤ y.id

theorem exists_isFirst {enrolments : List Enrolment} {y : Enrolment} (member : y ∈ enrolments) :
    ∃ x : Enrolment, x.IsFirst enrolments ∧ x.name = y.name := by
  obtain ⟨x, ⟨found, named⟩, least⟩ :=
    (measure Enrolment.id).wf.has_min { x | x ∈ enrolments ∧ x.name = y.name } ⟨y, member, rfl⟩
  refine ⟨x, ⟨found, ?_⟩, named⟩
  intro z other sameName
  exact Nat.le_of_not_lt (least z ⟨other, sameName.trans named⟩)

/-- With one more enrolment, those stay first that were so, and the new one may join them. -/
theorem isFirst_concat_iff {enrolments : List Enrolment} {x : Enrolment}
    (before : ∀ y ∈ enrolments, y.Before x) {y : Enrolment} :
    y.IsFirst (enrolments ++ [x]) ↔
      y.IsFirst enrolments ∨ y = x ∧ ∀ z ∈ enrolments, z.name = x.name → x.id ≤ z.id := by
  constructor
  · rintro ⟨member, least⟩
    have narrowed : ∀ z ∈ enrolments, z.name = y.name → y.id ≤ z.id := by
      intro z other
      exact least z (List.mem_append_left _ other)
    rcases List.mem_append.1 member with earlier | last
    · exact Or.inl ⟨earlier, narrowed⟩
    · obtain rfl := List.mem_singleton.1 last
      exact Or.inr ⟨rfl, narrowed⟩
  · rintro (⟨member, least⟩ | ⟨rfl, least⟩)
    · refine ⟨List.mem_append_left _ member, ?_⟩
      intro z other sameName
      rcases List.mem_append.1 other with earlier | last
      · exact least z earlier sameName
      · rw [List.mem_singleton.1 last]
        exact (before y member).id_le
    · refine ⟨List.mem_append_right _ List.mem_cons_self, ?_⟩
      intro z other sameName
      rcases List.mem_append.1 other with earlier | last
      · exact least z earlier sameName
      · rw [List.mem_singleton.1 last]

/-- One more enrolment adds its number to those of the first ones exactly if its internal
name is new. -/
theorem exists_isFirst_concat_iff {enrolments : List Enrolment} {x : Enrolment}
    (before : ∀ y ∈ enrolments, y.Before x) {id : ComponentId} :
    (∃ y : Enrolment, y.IsFirst (enrolments ++ [x]) ∧ y.id = id) ↔
      (∃ y : Enrolment, y.IsFirst enrolments ∧ y.id = id) ∨
        id = x.id ∧ ∀ z ∈ enrolments, z.name ≠ x.name := by
  constructor
  · rintro ⟨y, first, rfl⟩
    rcases (isFirst_concat_iff before).1 first with earlier | ⟨rfl, least⟩
    · exact Or.inl ⟨y, earlier, rfl⟩
    · by_cases fresh : ∀ z ∈ enrolments, z.name ≠ y.name
      · exact Or.inr ⟨rfl, fresh⟩
      · -- an export of the same component into this module has the number already
        push Not at fresh
        obtain ⟨z, other, named⟩ := fresh
        obtain ⟨w, wFirst, sameName⟩ := exists_isFirst other
        exact Or.inl ⟨w, wFirst, Nat.le_antisymm (before w wFirst.1).id_le
          (least w wFirst.1 (sameName.trans named))⟩
  · rintro (⟨y, first, rfl⟩ | ⟨rfl, fresh⟩)
    · exact ⟨y, (isFirst_concat_iff before).2 (Or.inl first), rfl⟩
    · refine ⟨x, (isFirst_concat_iff before).2 (Or.inr ⟨rfl, ?_⟩), rfl⟩
      intro z other sameName
      exact absurd sameName (fresh z other)

end Enrolment

namespace Module

/-- A module lists, in order, the first of each internal name among its enrolments. -/
structure Gathers (m : Module) (enrolments : List Enrolment) : Prop where
  mem_iff : ∀ id, id ∈ m.components ↔ ∃ x : Enrolment, x.IsFirst enrolments ∧ x.id = id
  increasing : m.components.Pairwise (· < ·)

theorem gathers_ofExport (e : Export) : (ofExport e).Gathers [] where
  mem_iff := by simp [ofExport, Enrolment.IsFirst]
  increasing := List.Pairwise.nil

theorem components_enrol (m : Module) (x : Enrolment) :
    (m.enrol x).components =
      if m.hasMember x.known x.id x.name then m.components else m.components ++ [x.id] := rfl

variable {m : Module} {enrolments : List Enrolment} {x : Enrolment}

/-- A component is turned away exactly if one of its internal name was enrolled before. -/
theorem Gathers.hasMember_iff (gathers : m.Gathers enrolments)
    (before : ∀ y ∈ enrolments, y.Before x) :
    m.hasMember x.known x.id x.name = true ↔ ∃ y ∈ enrolments, y.name = x.name := by
  rw [hasMember, List.any_eq_true]
  constructor
  · rintro ⟨id, listed, found⟩
    obtain ⟨y, ⟨member, -⟩, rfl⟩ := (gathers.mem_iff id).1 listed
    rw [(before y member).test_eq] at found
    exact ⟨y, member, eq_of_beq found⟩
  · rintro ⟨y, member, named⟩
    -- of all enrolments of that name it is the first one whose number is listed
    obtain ⟨z, first, sameName⟩ := Enrolment.exists_isFirst member
    refine ⟨z.id, (gathers.mem_iff _).2 ⟨z, first, rfl⟩, ?_⟩
    rw [(before z first.1).test_eq, beq_iff_eq]
    exact sameName.trans named

/-- An enrolment keeps the list of its module in order. -/
theorem Gathers.enrol (gathers : m.Gathers enrolments) (before : ∀ y ∈ enrolments, y.Before x) :
    (m.enrol x).Gathers (enrolments ++ [x]) := by
  by_cases present : m.hasMember x.known x.id x.name = true
  · have unchanged : (m.enrol x).components = m.components := by
      rw [components_enrol, if_pos present]
    obtain ⟨z, other, named⟩ := (gathers.hasMember_iff before).1 present
    refine ⟨?_, unchanged ▸ gathers.increasing⟩
    intro id
    rw [unchanged, gathers.mem_iff, Enrolment.exists_isFirst_concat_iff before, or_iff_left]
    rintro ⟨-, fresh⟩
    exact fresh z other named
  · have joined : (m.enrol x).components = m.components ++ [x.id] := by
      rw [components_enrol, if_neg present]
    have fresh : ∀ y ∈ enrolments, y.name ≠ x.name := by
      intro y member named
      exact present ((gathers.hasMember_iff before).2 ⟨y, member, named⟩)
    constructor
    · intro id
      rw [joined, List.mem_append, gathers.mem_iff, List.mem_singleton,
        Enrolment.exists_isFirst_concat_iff before, and_iff_left fresh]
    · rw [joined, List.pairwise_append]
      refine ⟨gathers.increasing, List.pairwise_singleton _ _, ?_⟩
      intro id listed last isLast
      rw [List.mem_singleton.1 isLast]
      obtain ⟨y, ⟨member, -⟩, rfl⟩ := (gathers.mem_iff id).1 listed
      exact (before y member).id_lt_of_name_ne (fresh y member)

theorem gathers_of_gather? (ordered : enrolments.Pairwise Enrolment.Before)
    (gathered : gather? enrolments = some m) : m.Gathers enrolments :=
  gather?_induction (fun x => (gathers_ofExport x.via).enrol (fun _ none => by cases none))
    (fun _ _ _ gathers before => gathers.enrol before) ordered gathered

end Module

/-! ### The tables of a catalog -/

namespace Catalog

theorem gathers_of_mem_tabulate {enrolments : List Enrolment}
    (ordered : enrolments.Pairwise Enrolment.Before) {m : Module}
    (member : m ∈ tabulate enrolments) :
    m.Gathers (enrolments.filter (·.moduleName == m.name)) := by
  have found := (find?_name_eq_some_iff (nodup_tabulate enrolments)).2 ⟨member, rfl⟩
  rw [find?_tabulate] at found
  exact Module.gathers_of_gather? (ordered.filter _) found

/-- The components with an export into a module are those that are enrolled there. -/
theorem exportsInto_iff {components : List Component} {key : String} {id : ComponentId}
    {c : Component} :
    components[id]? = some c ∧ c.ExportsInto key ↔
      ∃ x ∈ enrolmentsInto components key, x.id = id ∧ x.component = c := by
  constructor
  · rintro ⟨here, e, member, rfl⟩
    have inside : id < components.length := (List.getElem?_eq_some_iff.1 here).1
    have number : (⟨components.take id, c, e⟩ : Enrolment).id = id := by
      rw [Enrolment.id, List.length_take, Nat.min_eq_left (Nat.le_of_lt inside)]
    refine ⟨⟨components.take id, c, e⟩, List.mem_filter.2 ⟨?_, beq_self_eq_true _⟩, number, rfl⟩
    rw [Enrolment.mem_all_iff, number]
    exact ⟨rfl, here, member⟩
  · rintro ⟨x, enrolled, rfl, rfl⟩
    obtain ⟨member, into⟩ := List.mem_filter.1 enrolled
    obtain ⟨-, here, isExport⟩ := Enrolment.mem_all_iff.1 member
    exact ⟨here, x.via, isExport, eq_of_beq into⟩

/-- To be first of an internal name among the enrolments is to be its least component. -/
theorem exists_isFirst_iff {components : List Component} {key : String} {id : ComponentId} :
    (∃ x : Enrolment, x.IsFirst (enrolmentsInto components key) ∧ x.id = id) ↔
      ∃ c, components[id]? = some c ∧
        IsLeast { i | ∃ c', components[i]? = some c' ∧ c'.name = c.name ∧ c'.ExportsInto key }
          id := by
  constructor
  · rintro ⟨x, ⟨enrolled, least⟩, rfl⟩
    obtain ⟨here, into⟩ := exportsInto_iff.2 ⟨x, enrolled, rfl, rfl⟩
    refine ⟨x.component, here, ⟨x.component, here, rfl, into⟩, ?_⟩
    rintro i ⟨c', there, sameName, alsoInto⟩
    obtain ⟨y, other, rfl, rfl⟩ := exportsInto_iff.1 ⟨there, alsoInto⟩
    exact least y other sameName
  · rintro ⟨c, here, ⟨c', again, -, into⟩, least⟩
    obtain rfl : c = c' := Option.some.inj (here.symm.trans again)
    obtain ⟨x, enrolled, rfl, rfl⟩ := exportsInto_iff.1 ⟨here, into⟩
    refine ⟨x, ⟨enrolled, ?_⟩, rfl⟩
    intro y other sameName
    obtain ⟨there, alsoInto⟩ := exportsInto_iff.2 ⟨y, other, rfl, rfl⟩
    exact least ⟨y.component, there, sameName, alsoInto⟩

theorem idOf?_eq_some_iff_isLeast (catalog : Catalog) (name : String) (id : ComponentId) :
    catalog.idOf? name = some id ↔
      IsLeast { i | ∃ c, catalog.component? i = some c ∧ c.name = name } id := by
  rw [idOf?_eq_findIdx?, List.findIdx?_eq_some_iff_getElem]
  constructor
  · rintro ⟨inside, named, earlier⟩
    refine ⟨⟨_, List.getElem?_eq_getElem inside, eq_of_beq named⟩, ?_⟩
    rintro i ⟨c, here, rfl⟩
    obtain ⟨bound, rfl⟩ := List.getElem?_eq_some_iff.1 here
    refine Nat.le_of_not_lt fun lt => earlier i lt ?_
    exact beq_self_eq_true _
  · rintro ⟨⟨c, here, named⟩, least⟩
    obtain ⟨inside, rfl⟩ := List.getElem?_eq_some_iff.1 here
    refine ⟨inside, beq_iff_eq.2 named, ?_⟩
    intro i lt sameName
    have bound : i < catalog.components.length := Nat.lt_trans lt inside
    have le := least ⟨_, List.getElem?_eq_getElem bound, eq_of_beq sameName⟩
    exact Nat.not_lt.2 le lt

section

variable {components : List Component} {m : Module}

theorem gathers_of_module? {key : String}
    (found : (ofComponents components).module? key = some m) :
    m.Gathers (enrolmentsInto components key) := by
  rw [module?_ofComponents] at found
  exact Module.gathers_of_gather? ((Enrolment.pairwise_all components).filter _) found

/-- A module lists exactly the first of each internal name. -/
theorem exists_module?_iff {key : String} {id : ComponentId} :
    (∃ m, (ofComponents components).module? key = some m ∧ id ∈ m.components) ↔
      ∃ c, components[id]? = some c ∧
        IsLeast { i | ∃ c', components[i]? = some c' ∧ c'.name = c.name ∧ c'.ExportsInto key }
          id := by
  rw [← exists_isFirst_iff]
  constructor
  · rintro ⟨m, found, listed⟩
    exact ((gathers_of_module? found).mem_iff id).1 listed
  · rintro ⟨x, first, rfl⟩
    cases found : (ofComponents components).module? key with
    | none =>
        -- without a module there would be no enrolment either
        rw [module?_ofComponents, Module.gather?_eq_none_iff] at found
        rw [found] at first
        cases first.1
    | some m => exact ⟨m, rfl, ((gathers_of_module? found).mem_iff _).2 ⟨x, first, rfl⟩⟩

theorem isLeast_of_listed (member : m ∈ (ofComponents components).modules) {id : ComponentId}
    (listed : id ∈ m.components) :
    ∃ c, components[id]? = some c ∧
      IsLeast { i | ∃ c', components[i]? = some c' ∧ c'.name = c.name ∧ c'.ExportsInto m.name }
        id :=
  exists_module?_iff.1 ⟨m, module?_of_mem member, listed⟩

theorem components_ne_nil_of_mem (member : m ∈ (ofComponents components).modules) :
    m.components ≠ [] := by
  have found := module?_of_mem member
  have some_enrolment : enrolmentsInto components m.name ≠ [] := by
    intro none
    rw [module?_ofComponents, none] at found
    cases found
  obtain ⟨x, enrolled⟩ := List.exists_mem_of_ne_nil _ some_enrolment
  obtain ⟨y, first, -⟩ := Enrolment.exists_isFirst enrolled
  exact List.ne_nil_of_mem (((gathers_of_module? found).mem_iff _).2 ⟨y, first, rfl⟩)

/-- Two components of one internal name are not both listed, since only one is the
first. -/
theorem pairwise_name_of_mem (member : m ∈ (ofComponents components).modules) :
    m.components.Pairwise fun i j =>
      components[i]?.map Component.name ≠ components[j]?.map Component.name := by
  have increasing := (gathers_of_module? (module?_of_mem member)).increasing
  refine increasing.imp_of_mem ?_
  intro i j iListed jListed lt sameName
  obtain ⟨c, cHere, ⟨c', again, -, into⟩, -⟩ := isLeast_of_listed member iListed
  obtain ⟨d, dHere, -, least⟩ := isLeast_of_listed member jListed
  obtain rfl : c = c' := Option.some.inj (cHere.symm.trans again)
  rw [cHere, dHere] at sameName
  have le : j ≤ i := least ⟨c, cHere, Option.some.inj sameName, into⟩
  exact Nat.not_lt.2 le lt

end

/-- Every catalog that is built is well-formed. -/
theorem wellFormed_ofComponents (components : List Component) :
    (ofComponents components).toTables.WellFormed where
  names_nodup := nodup_ofComponents _
  module?_eq_some_iff _ _ := by
    rw [module?_eq_find?]
    exact find?_name_eq_some_iff (nodup_ofComponents _)
  module?_eq_none_iff _ := by simp [module?_eq_find?]
  moduleIndex_inside _ _ := (ofComponents components).indexed.lt_length
  idOf?_eq_some_iff := idOf?_eq_some_iff_isLeast _
  idOf?_eq_none_iff _ := by simp [idOf?_eq_findIdx?]
  exports_ne_nil _ _ := List.cons_ne_nil _ _
  components_ne_nil _ := components_ne_nil_of_mem
  components_increasing _ member := (gathers_of_module? (module?_of_mem member)).increasing
  components_inside m member id listed := by
    obtain ⟨c, here, -⟩ := isLeast_of_listed member listed
    rw [components_ofComponents]
    exact (List.getElem?_eq_some_iff.1 here).1
  components_names m member := by
    simpa only [Tables.component?, components_ofComponents] using pairwise_name_of_mem member
  mem_components_iff key id := by
    simpa only [Tables.component?, components_ofComponents] using exists_module?_iff

theorem toTables_ofComponents (components : List Component) :
    (ofComponents components).toTables = .ofComponents components := by
  induction components using List.reverseRecOn with
  | nil => rfl
  | append_singleton components c ih =>
      rw [ofComponents_concat, Tables.ofComponents_concat, ← ih]
      rfl

/-- While a component is being entered, the numbers that the modules list are those of known
components and its own. -/
theorem lt_or_eq_of_mem_partway {components : List Component} {c : Component}
    {entered : List Export} (front : entered <+: c.exports) {m : Module}
    (member : m ∈ (ofComponents components).partway c entered) {id : ComponentId}
    (listed : id ∈ m.components) : id < components.length ∨ id = components.length := by
  rw [partway_eq_tabulate (modules_ofComponents components), components_ofComponents] at member
  have ordered : (Enrolment.all components ++ entered.map (Enrolment.mk components c)).Pairwise
      Enrolment.Before := by
    have whole := Enrolment.pairwise_all (components ++ [c])
    rw [Enrolment.all_concat] at whole
    exact whole.sublist ((List.Sublist.refl _).append (front.sublist.map _))
  obtain ⟨x, ⟨enrolled, -⟩, rfl⟩ := ((gathers_of_mem_tabulate ordered member).mem_iff id).1 listed
  rcases List.mem_append.1 (List.mem_filter.1 enrolled).1 with earlier | own
  · exact Or.inl (List.getElem?_eq_some_iff.1 (Enrolment.mem_all_iff.1 earlier).2.1).1
  · obtain ⟨e, -, rfl⟩ := List.mem_map.1 own
    exact Or.inr rfl

/-- **Catalogs stay well-formed.**  Whatever components are entered, the tables are well-formed
after each of them.  While a component is being entered, all numbers but its own that the test for
its name looks up are those of known components, and the place of a module is never past their end.
A load enters the components of its descriptors, so it gives well-formed tables. -/
theorem wellFormed_insert_load :
    (∀ (components : List Component) (c : Component),
      let tables := Tables.ofComponents components
      (tables.insert c).WellFormed ∧
        ∀ entered, entered <+: c.exports →
          let during := tables.partway c entered
          (∀ m ∈ during.modules, ∀ id ∈ m.components, id ≠ tables.components.length →
            id < tables.components.length) ∧
          ∀ key place, during.moduleIndex.place? key = some place →
            place < during.modules.length) ∧
      ∀ (descriptors : List Descriptor) (catalog : Catalog),
        load descriptors = .ok catalog →
          catalog.toTables.WellFormed ∧
            catalog.toTables = .ofComponents (descriptors.flatMap Descriptor.components) := by
  constructor
  · intro components c
    rw [← toTables_ofComponents]
    refine ⟨?_, ?_⟩
    · have wellFormed := wellFormed_ofComponents (components ++ [c])
      rwa [ofComponents_concat] at wellFormed
    · intro entered front
      refine ⟨?_, ?_⟩
      · intro m member id listed other
        rw [modules_partway] at member
        rw [components_ofComponents] at other ⊢
        exact (lt_or_eq_of_mem_partway front member listed).resolve_right other
      · intro key place
        exact ((ofComponents components).indexed.partway c entered).lt_length
  · intro descriptors catalog loaded
    obtain ⟨-, rfl⟩ := load_eq_ok_iff.1 loaded
    exact ⟨wellFormed_ofComponents _, toTables_ofComponents _⟩

/-- Descriptors with one internal name in two of them, and two exports into one module in
the first. -/
theorem wellFormed_load_family :
    ∃ catalog, load ([.ofItem] ++ [.ofSecondItem, .ofBase]) = .ok catalog ∧
      catalog.modules = [⟨"M", "1", [0, 2]⟩] ∧ catalog.toTables.WellFormed :=
  ⟨_, load_family, by decide +kernel, (wellFormed_insert_load.2 _ _ load_family).1⟩

end Catalog

end QmlAssist
