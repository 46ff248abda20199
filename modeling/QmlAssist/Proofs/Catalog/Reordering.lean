import QmlAssist.Proofs.Catalog.Version
import QmlAssist.Proofs.Catalog.WellFormed

/-!
# The order of descriptors

Numbers of components, the order of modules and the version text that a module keeps depend on
the order in which components are entered.  What can be imported does not: which modules there
are, which internal names they have, and which requests they serve.

## Main Definitions

* `Catalog.memberNames` — the internal names of the components that a module lists.
* `Catalog.OffersSame` — two catalogs from which the same can be imported.

## Main Statements

* `Catalog.mem_memberNames_iff` — a module has the internal names that are exported into it.
* `Module.KeepsLeast.serves_congr` — which versions are exported decides what a module serves.
* `Catalog.offersSame_ofComponents` — the same components in any order offer the same.
* `Catalog.load_reordered` — so do reordered descriptors, and reordered records in one of them.

## Design Notes

Of all this, only membership in the list of components matters, so the order of the list is not
followed at all.  The version texts that two orders keep may differ, as `2` and `2.0` do, but
both are least among the same versions, and that decides what a module serves.
-/

namespace QmlAssist

/-! ### What is enrolled in a module -/

namespace Catalog

variable {components : List Component} {key : String}

/-- A component that is exported into a module is enrolled there, and no other one is. -/
theorem exists_mem_enrolmentsInto_iff (P : Component → Prop) :
    (∃ x ∈ enrolmentsInto components key, P x.component) ↔
      ∃ c ∈ components, c.ExportsInto key ∧ P c := by
  constructor
  · rintro ⟨x, enrolled, holds⟩
    obtain ⟨here, into⟩ := exportsInto_iff.2 ⟨x, enrolled, rfl, rfl⟩
    exact ⟨x.component, List.mem_of_getElem? here, into, holds⟩
  · rintro ⟨c, member, into, holds⟩
    obtain ⟨id, here⟩ := List.getElem?_of_mem member
    obtain ⟨x, enrolled, -, rfl⟩ := exportsInto_iff.1 ⟨here, into⟩
    exact ⟨x, enrolled, holds⟩

/-- There is a module exactly if some component is exported into it. -/
theorem mem_map_name_ofComponents_iff :
    key ∈ (ofComponents components).modules.map Module.name ↔
      ∃ c ∈ components, c.ExportsInto key := by
  rw [← not_iff_not]
  calc key ∉ (ofComponents components).modules.map Module.name
      ↔ (ofComponents components).module? key = none := by
        rw [(wellFormed_ofComponents components).module?_eq_none_iff, List.mem_map]
        push Not
        rfl
    _ ↔ enrolmentsInto components key = [] := by
        rw [module?_ofComponents, Module.gather?_eq_none_iff]
    _ ↔ ¬∃ c ∈ components, c.ExportsInto key := by
        have enrolled : (∃ x ∈ enrolmentsInto components key, True) ↔
            ∃ c ∈ components, c.ExportsInto key ∧ True :=
          exists_mem_enrolmentsInto_iff fun _ => True
        rw [List.eq_nil_iff_forall_not_mem]
        simpa using not_congr enrolled

/-- The internal names of the components that a module lists. -/
def memberNames (catalog : Catalog) (m : Module) : List String :=
  m.components.filterMap fun id => (catalog.component? id).map Component.name

/-- A module has exactly the internal names that are exported into it. -/
theorem mem_memberNames_iff {m : Module} (member : m ∈ (ofComponents components).modules)
    {name : String} :
    name ∈ (ofComponents components).memberNames m ↔
      ∃ c ∈ components, c.ExportsInto m.name ∧ c.name = name := by
  have gathers := gathers_of_module? (module?_of_mem member)
  rw [← exists_mem_enrolmentsInto_iff fun c => c.name = name, memberNames, List.mem_filterMap]
  constructor
  · rintro ⟨id, listed, named⟩
    obtain ⟨x, ⟨enrolled, -⟩, rfl⟩ := (gathers.mem_iff id).1 listed
    obtain ⟨here, -⟩ := exportsInto_iff.2 ⟨x, enrolled, rfl, rfl⟩
    rw [Tables.component?, components_ofComponents, here] at named
    exact ⟨x, enrolled, Option.some.inj named⟩
  · rintro ⟨y, enrolled, named⟩
    -- of all enrolments of that name it is the first one that is listed
    obtain ⟨x, first, sameName⟩ := Enrolment.exists_isFirst enrolled
    obtain ⟨here, -⟩ := exportsInto_iff.2 ⟨x, first.1, rfl, rfl⟩
    refine ⟨x.id, (gathers.mem_iff _).2 ⟨x, first, rfl⟩, ?_⟩
    rw [Tables.component?, components_ofComponents, here]
    exact congrArg some (sameName.trans named)

end Catalog

/-! ### What a module serves -/

/-- Two modules with the same versions serve the same requests. -/
theorem Module.KeepsLeast.serves_congr {m m' : Module} {versions versions' : List String}
    (keeps : m.KeepsLeast versions) (keeps' : m'.KeepsLeast versions')
    (same : ∀ v, v ∈ versions ↔ v ∈ versions') (clause : String) :
    m.serves clause = m'.serves clause := by
  rw [Bool.eq_iff_iff, keeps.serves_iff, keeps'.serves_iff]
  simp only [same]

namespace Catalog

theorem mem_versions_iff {components : List Component} {key version : String} :
    version ∈ (enrolmentsInto components key).map Enrolment.version ↔
      ∃ c ∈ components, ∃ e ∈ c.exports, e.moduleName = key ∧ e.version = version := by
  rw [map_version_enrolmentsInto_eq]
  simp only [List.mem_map, List.mem_filter, List.mem_flatMap, beq_iff_eq]
  constructor
  · rintro ⟨e, ⟨⟨c, member, isExport⟩, into⟩, version_eq⟩
    exact ⟨c, member, e, isExport, into, version_eq⟩
  · rintro ⟨c, member, e, isExport, into, version_eq⟩
    exact ⟨e, ⟨⟨c, member, isExport⟩, into⟩, version_eq⟩

/-! ### Catalogs that offer the same -/

/-- The same can be imported from two catalogs. -/
structure OffersSame (catalog other : Catalog) : Prop where
  /-- They have modules of the same names, -/
  names_iff : ∀ key, key ∈ catalog.modules.map Module.name ↔ key ∈ other.modules.map Module.name
  /-- modules of one name list components of the same internal names, -/
  memberNames_iff : ∀ m ∈ catalog.modules, ∀ m' ∈ other.modules, m.name = m'.name →
    ∀ name, name ∈ catalog.memberNames m ↔ name ∈ other.memberNames m'
  /-- and they serve the same requests. -/
  serves_eq : ∀ m ∈ catalog.modules, ∀ m' ∈ other.modules, m.name = m'.name →
    ∀ clause, m.serves clause = m'.serves clause

/-- The same components offer the same, in whatever order and however often they are
entered. -/
theorem offersSame_ofComponents {components components' : List Component}
    (same : ∀ c, c ∈ components ↔ c ∈ components') :
    (ofComponents components).OffersSame (ofComponents components') where
  names_iff key := by
    simp only [mem_map_name_ofComponents_iff, same]
  memberNames_iff m member m' member' sameName name := by
    simp only [mem_memberNames_iff member, mem_memberNames_iff member', sameName, same]
  serves_eq m member m' member' sameName clause := by
    refine (keepsLeast_of_mem member).serves_congr (keepsLeast_of_mem member') ?_ clause
    intro version
    simp only [mem_versions_iff, sameName, same]

/-! ### Loads -/

/-- Descriptors that describe the same components can be loaded in place of others, and offer
the same. -/
theorem exists_load_offersSame {descriptors others : List Descriptor} {catalog : Catalog}
    (loaded : load descriptors = .ok catalog)
    (readable : ∀ d ∈ others, ∃ records, d.records = .ok records)
    (same : ∀ c, c ∈ descriptors.flatMap Descriptor.components ↔
      c ∈ others.flatMap Descriptor.components) :
    ∃ other, load others = .ok other ∧ catalog.OffersSame other := by
  obtain ⟨-, rfl⟩ := load_eq_ok_iff.1 loaded
  exact ⟨_, load_eq_ok_iff.2 ⟨readable, rfl⟩, offersSame_ofComponents same⟩

/-- **What can be imported does not depend on order.**  If descriptors can be loaded, so can
they in any other order, and with the records of one of them in any other order.  The
catalogs have modules of the same names, which list components of the same internal names and
serve the same requests. -/
theorem load_reordered {descriptors : List Descriptor} {catalog : Catalog}
    (loaded : load descriptors = .ok catalog) :
    (∀ reordered, descriptors.Perm reordered →
      ∃ other, load reordered = .ok other ∧ catalog.OffersSame other) ∧
    ∀ front back d d' records records', descriptors = front ++ d :: back →
      d.records = .ok records → d'.records = .ok records' → records.Perm records' →
      ∃ other, load (front ++ d' :: back) = .ok other ∧ catalog.OffersSame other := by
  have readable := (load_eq_ok_iff.1 loaded).1
  constructor
  · intro reordered perm
    refine exists_load_offersSame loaded ?_ ?_
    · intro d member
      exact readable d (perm.mem_iff.2 member)
    · intro c
      exact (perm.flatMap_right Descriptor.components).mem_iff
  · rintro front back d d' records records' rfl read read' perm
    refine exists_load_offersSame loaded ?_ ?_
    · intro e member
      rcases List.mem_append.1 member with inFront | rest
      · exact readable e (List.mem_append_left _ inFront)
      rcases List.mem_cons.1 rest with rfl | inBack
      · exact ⟨records', read'⟩
      · exact readable e (List.mem_append_right _ (List.mem_cons_of_mem _ inBack))
    · have described : d.components.Perm d'.components := by
        rw [Descriptor.components, Descriptor.components, read, read']
        exact perm.filterMap _
      intro c
      simp only [List.flatMap_append, List.flatMap_cons, List.mem_append, described.mem_iff]

end Catalog

/-- The record of a component with one export. -/
def Json.ofExport (name written : String) : Json :=
  .object [("exports", .array [.string written]), ("name", .string name)]

namespace Descriptor

/-- A descriptor with two records of one internal name.  The export of the second one has no
version. -/
def ofPair : Descriptor where
  name := "pair.json"
  content := "\x7b\"components\":[\x7b\"name\":\"A\",\"exports\":[\"M/A 2\"]\x7d," ++
    "\x7b\"name\":\"A\",\"exports\":[\"M/C rc\"]\x7d]\x7d"

/-- The same two records the other way round. -/
def ofSwappedPair : Descriptor where
  name := "pair.json"
  content := "\x7b\"components\":[\x7b\"name\":\"A\",\"exports\":[\"M/C rc\"]\x7d," ++
    "\x7b\"name\":\"A\",\"exports\":[\"M/A 2\"]\x7d]\x7d"

/-- A descriptor that writes the version of the module in another way. -/
def ofDotted : Descriptor where
  name := "dotted.json"
  content := "\x7b\"components\":[\x7b\"name\":\"B\",\"exports\":[\"M/B 2.0\"]\x7d]\x7d"

theorem records_ofPair :
    ofPair.records = .ok [.ofExport "A" "M/A 2", .ofExport "A" "M/C rc"] := by
  rfl

theorem records_ofSwappedPair :
    ofSwappedPair.records = .ok [.ofExport "A" "M/C rc", .ofExport "A" "M/A 2"] := by
  rfl

theorem records_ofDotted : ofDotted.records = .ok [.ofExport "B" "M/B 2.0"] := by
  rfl

end Descriptor

namespace Catalog

open Descriptor

/-- The version of a module written in two ways.  In another order the module keeps the other
text, but it serves the same requests. -/
theorem load_reordered_versions :
    ∃ catalog other, load [.ofPair, .ofDotted] = .ok catalog ∧
      load [.ofDotted, .ofPair] = .ok other ∧
      catalog.modules = [⟨"M", "2", [0, 2]⟩] ∧ other.modules = [⟨"M", "2.0", [0, 1]⟩] ∧
      catalog.OffersSame other ∧
      ∃ other', load [.ofSwappedPair, .ofDotted] = .ok other' ∧ catalog.OffersSame other' := by
  have loaded : load [.ofPair, .ofDotted] =
      .ok (ofComponents ([.ofExport "A" "M/A 2", .ofExport "A" "M/C rc",
        .ofExport "B" "M/B 2.0"].filterMap Component.ofJson?)) := by
    refine load_eq_ok_iff.2 ⟨by simp [records_ofPair, records_ofDotted], ?_⟩
    simp only [List.flatMap_cons, Descriptor.components, records_ofPair, records_ofDotted]
    rfl
  obtain ⟨descriptorsFirst, recordsFirst⟩ := load_reordered loaded
  obtain ⟨other, again, same⟩ := descriptorsFirst [.ofDotted, .ofPair] (List.Perm.swap _ _ _)
  have modules : (load [.ofDotted, .ofPair]).map (·.modules) = .ok [⟨"M", "2.0", [0, 1]⟩] := by
    decide +kernel
  rw [again] at modules
  exact ⟨_, _, loaded, again, by decide +kernel, Except.ok.inj modules, same,
    recordsFirst [] [.ofDotted] .ofPair .ofSwappedPair _ _ rfl records_ofPair
      records_ofSwappedPair (List.Perm.swap _ _ _)⟩

end Catalog

end QmlAssist
