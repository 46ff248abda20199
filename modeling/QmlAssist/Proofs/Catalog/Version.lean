import QmlAssist.Proofs.Catalog.Enrolment

/-!
# Versions of modules

A module keeps one version, the least of its exports.  This module says which requests it
serves by that version, compared with what its exports would serve on their own.

## Main Definitions

* `Descriptor.versionsInto` — the versions of all exports into a module.
* `Module.KeepsLeast` — the version of a module is the least of some versions.

## Main Statements

* the comparison of version texts is transitive, and versions are compared
  lexicographically (`Version.cmpNumbers_eq_compareLex`).
* `Module.KeepsLeast.enrol` — an enrolment keeps the least version.
* `Catalog.serves_iff_exists_version` — which requests a module serves.

## Design Notes

Texts that hold no version are looked at in two ways.  A request is served by every such text,
as if it were the least version of all, but it comes last when versions are compared.  So a
module keeps such a text only if all its exports have one, and otherwise it does not serve
all that its exports would serve.
-/

namespace QmlAssist

namespace Version

/-! ### The order of versions -/

/-- Numbers are compared lexicographically. -/
theorem cmpNumbers_eq_compareLex : cmpNumbers = List.compareLex compare := by
  funext a b
  induction a generalizing b with
  | nil =>
      cases b with
      | nil => rw [cmpNumbers, List.compareLex_nil_nil]
      | cons n rest => rw [cmpNumbers, List.compareLex_nil_cons]
  | cons n rest ih =>
      cases b with
      | nil => rw [cmpNumbers, List.compareLex_cons_nil]
      | cons n' rest' => rw [cmpNumbers, List.compareLex_cons_cons, ih]

instance : Std.TransCmp cmpNumbers := by
  rw [cmpNumbers_eq_compareLex]
  infer_instance

instance : Std.TransCmp cmp where
  eq_swap {a b} := by
    show cmpNumbers a.numbers b.numbers = (cmpNumbers b.numbers a.numbers).swap
    exact Std.OrientedCmp.eq_swap
  isLE_trans {a b c} := by
    show (cmpNumbers a.numbers b.numbers).isLE = true →
      (cmpNumbers b.numbers c.numbers).isLE = true → (cmpNumbers a.numbers c.numbers).isLE = true
    exact Std.TransCmp.isLE_trans

instance : Std.TransCmp cmpTexts where
  eq_swap {a b} := by
    rw [cmpTexts, cmpTexts]
    cases parse? a with
    | none => cases parse? b <;> rfl
    | some v =>
        cases parse? b with
        | none => rfl
        | some w =>
            show v.cmp w = (w.cmp v).swap
            exact Std.OrientedCmp.eq_swap
  isLE_trans {a b c} := by
    rw [cmpTexts, cmpTexts, cmpTexts]
    cases parse? a with
    | none => cases parse? b <;> cases parse? c <;> simp
    | some u =>
        cases parse? c with
        | none => cases parse? b <;> simp
        | some w =>
            cases parse? b with
            | none => simp
            | some v =>
                show (u.cmp v).isLE = true → (v.cmp w).isLE = true → (u.cmp w).isLE = true
                exact Std.TransCmp.isLE_trans

theorem cmpTexts_self_isLE (a : String) : (cmpTexts a a).isLE = true := by
  have same : cmpTexts a a = .eq := Std.ReflCmp.compare_self
  rw [same]
  rfl

theorem cmpTexts_isLE_of_ne_lt {a b : String} (notLess : cmpTexts a b ≠ .lt) :
    (cmpTexts b a).isLE = true := by
  have swapped : cmpTexts b a = (cmpTexts a b).swap := Std.OrientedCmp.eq_swap
  rw [swapped]
  cases order : cmpTexts a b with
  | lt => exact absurd order notLess
  | eq => rfl
  | gt => rfl

/-- A text that comes first although it holds no version is followed by such texts only. -/
theorem parse?_eq_none_of_isLE {a b : String} (le : (cmpTexts a b).isLE = true)
    (unversioned : parse? a = none) : parse? b = none := by
  rw [cmpTexts, unversioned] at le
  cases parsed : parse? b with
  | none => rfl
  | some v =>
      rw [parsed] at le
      cases le

theorem cmp_isLE_of_isLE {a b : String} {v w : Version} (le : (cmpTexts a b).isLE = true)
    (left : parse? a = some v) (right : parse? b = some w) : (v.cmp w).isLE = true := by
  rw [cmpTexts, left, right] at le
  exact le

/-! ### Which versions serve a request -/

theorem satisfies_of_parse?_eq_none {available : String}
    (unversioned : parse? available = none) (requested : String) :
    satisfies available requested = true := by
  rw [satisfies, unversioned]
  cases parse? requested <;> rfl

theorem satisfies_of_isLE {less greater requested : String}
    (le : (cmpTexts less greater).isLE = true) {v : Version} (version : parse? greater = some v)
    (served : satisfies greater requested = true) : satisfies less requested = true := by
  rw [satisfies] at served ⊢
  cases asked : parse? requested with
  | none => rfl
  | some r =>
      cases parsed : parse? less with
      | none => rfl
      | some u =>
          rw [asked, version] at served
          exact Std.TransCmp.isLE_trans (cmp_isLE_of_isLE le parsed version) served

end Version

/-! ### The version of a module -/

namespace Module

/-- The version of a module is the least of some versions. -/
structure KeepsLeast (m : Module) (versions : List String) : Prop where
  mem : m.version ∈ versions
  least : ∀ v ∈ versions, (Version.cmpTexts m.version v).isLE = true

theorem version_enrol (m : Module) (x : Enrolment) :
    (m.enrol x).version =
      if Version.cmpTexts x.version m.version = .lt then x.version else m.version := rfl

theorem keepsLeast_first (x : Enrolment) : ((ofExport x.via).enrol x).KeepsLeast [x.version] := by
  have kept : ((ofExport x.via).enrol x).version = x.version := by
    rw [version_enrol]
    exact ite_self _
  constructor
  · rw [kept]
    exact List.mem_singleton_self _
  · intro v member
    rw [kept, List.mem_singleton.1 member]
    exact Version.cmpTexts_self_isLE _

/-- An enrolment keeps the least version. -/
theorem KeepsLeast.enrol {m : Module} {versions : List String} (keeps : m.KeepsLeast versions)
    (x : Enrolment) : (m.enrol x).KeepsLeast (versions ++ [x.version]) := by
  by_cases less : Version.cmpTexts x.version m.version = .lt
  · have replaced : (m.enrol x).version = x.version := by rw [version_enrol, if_pos less]
    constructor
    · rw [replaced]
      exact List.mem_append_right _ (List.mem_singleton_self _)
    · intro v member
      rw [replaced]
      rcases List.mem_append.1 member with earlier | last
      · refine Std.TransCmp.isLE_trans ?_ (keeps.least v earlier)
        rw [less]
        rfl
      · rw [List.mem_singleton.1 last]
        exact Version.cmpTexts_self_isLE _
  · have kept : (m.enrol x).version = m.version := by rw [version_enrol, if_neg less]
    constructor
    · rw [kept]
      exact List.mem_append_left _ keeps.mem
    · intro v member
      rw [kept]
      rcases List.mem_append.1 member with earlier | last
      · exact keeps.least v earlier
      · rw [List.mem_singleton.1 last]
        exact Version.cmpTexts_isLE_of_ne_lt less

theorem keepsLeast_of_gather? {enrolments : List Enrolment}
    (ordered : enrolments.Pairwise Enrolment.Before) {m : Module}
    (gathered : gather? enrolments = some m) :
    m.KeepsLeast (enrolments.map Enrolment.version) := by
  refine gather?_induction
    (P := fun m enrolments => m.KeepsLeast (enrolments.map Enrolment.version))
    keepsLeast_first ?_ ordered gathered
  intro m enrolments x keeps _
  rw [List.map_append]
  exact keeps.enrol x

/-- A module serves a request exactly if one of its versions does, where texts without
version count only if there is nothing else. -/
theorem KeepsLeast.serves_iff {m : Module} {versions : List String}
    (keeps : m.KeepsLeast versions) (clause : String) :
    m.serves clause = true ↔
      ∃ v ∈ versions, Version.satisfies v clause = true ∧
        (Version.parse? v ≠ none ∨ ∀ w ∈ versions, Version.parse? w = none) := by
  constructor
  · intro serves
    refine ⟨m.version, keeps.mem, serves, ?_⟩
    by_cases unversioned : Version.parse? m.version = none
    · right
      intro w member
      exact Version.parse?_eq_none_of_isLE (keeps.least w member) unversioned
    · exact Or.inl unversioned
  · rintro ⟨v, member, served, version | allNone⟩
    · obtain ⟨number, parsed⟩ := Option.ne_none_iff_exists'.1 version
      exact Version.satisfies_of_isLE (keeps.least v member) parsed served
    · exact Version.satisfies_of_parse?_eq_none (allNone _ keeps.mem) clause

/-- What a module serves is what its versions serve, unless it turns a request down that a
text without version would serve. -/
theorem KeepsLeast.serves_iff_exists_iff {m : Module} {versions : List String}
    (keeps : m.KeepsLeast versions) (clause : String) :
    (m.serves clause = true ↔ ∃ v ∈ versions, Version.satisfies v clause = true) ↔
      (m.serves clause = true ∨ ∀ v ∈ versions, Version.parse? v ≠ none) := by
  constructor
  · intro alike
    by_cases serves : m.serves clause = true
    · exact Or.inl serves
    · right
      intro v member unversioned
      exact serves (alike.2 ⟨v, member, Version.satisfies_of_parse?_eq_none unversioned clause⟩)
  · intro condition
    refine ⟨fun serves => ⟨m.version, keeps.mem, serves⟩, ?_⟩
    rintro ⟨v, member, served⟩
    rcases condition with serves | allVersions
    · exact serves
    · exact (keeps.serves_iff clause).2 ⟨v, member, served, Or.inl (allVersions v member)⟩

end Module

/-! ### Loaded modules -/

/-- The versions of all well-formed exports into a module, in order. -/
def Descriptor.versionsInto (descriptors : List Descriptor) (key : String) : List String :=
  (((descriptors.flatMap exportTexts).filterMap Export.parse?).filter
    (·.moduleName == key)).map Export.version

theorem Enrolment.map_via_all (components : List Component) :
    (all components).map via = components.flatMap Component.exports := by
  induction components using List.reverseRecOn with
  | nil => rfl
  | append_singleton components c ih =>
      rw [all_concat, List.map_append, ih, List.flatMap_append, List.map_map]
      simp [Function.comp_def]

namespace Catalog

theorem flatMap_exports_flatMap_components (descriptors : List Descriptor) :
    (descriptors.flatMap Descriptor.components).flatMap Component.exports =
      (descriptors.flatMap Descriptor.exportTexts).filterMap Export.parse? := by
  induction descriptors with
  | nil => rfl
  | cons d rest ih =>
      rw [List.flatMap_cons, List.flatMap_append, d.flatMap_exports_components, ih,
        List.flatMap_cons, List.filterMap_append]

theorem map_version_enrolmentsInto_eq (components : List Component) (key : String) :
    (enrolmentsInto components key).map Enrolment.version =
      ((components.flatMap Component.exports).filter (·.moduleName == key)).map Export.version := by
  rw [← Enrolment.map_via_all, List.filter_map, List.map_map]
  rfl

/-- The versions that are enrolled in a module are those of the exports into it. -/
theorem map_version_enrolmentsInto (descriptors : List Descriptor) (key : String) :
    (enrolmentsInto (descriptors.flatMap Descriptor.components) key).map Enrolment.version =
      Descriptor.versionsInto descriptors key := by
  rw [Descriptor.versionsInto, ← flatMap_exports_flatMap_components,
    map_version_enrolmentsInto_eq]

theorem keepsLeast_of_mem {components : List Component} {m : Module}
    (member : m ∈ (ofComponents components).modules) :
    m.KeepsLeast ((enrolmentsInto components m.name).map Enrolment.version) := by
  have found := module?_of_mem member
  rw [module?_ofComponents] at found
  exact Module.keepsLeast_of_gather? ((Enrolment.pairwise_all _).filter _) found

theorem keepsLeast_of_load {descriptors : List Descriptor} {catalog : Catalog}
    (loaded : load descriptors = .ok catalog) {m : Module} (member : m ∈ catalog.modules) :
    m.KeepsLeast (Descriptor.versionsInto descriptors m.name) := by
  obtain ⟨-, rfl⟩ := load_eq_ok_iff.1 loaded
  rw [← map_version_enrolmentsInto]
  exact keepsLeast_of_mem member

/-- **What the version of a module stands for.**  A loaded module serves an import exactly if
one of its exports would, where exports without version count only if all exports are of that
kind.  So it serves all that its exports would serve exactly if it serves the import itself
or none of its exports is without version. -/
theorem serves_iff_exists_version {descriptors : List Descriptor} {catalog : Catalog}
    (loaded : load descriptors = .ok catalog) {m : Module} (member : m ∈ catalog.modules)
    (clause : String) :
    let versions := Descriptor.versionsInto descriptors m.name
    (m.serves clause = true ↔
        ∃ v ∈ versions, Version.satisfies v clause = true ∧
          (Version.parse? v ≠ none ∨ ∀ w ∈ versions, Version.parse? w = none)) ∧
      ((m.serves clause = true ↔ ∃ v ∈ versions, Version.satisfies v clause = true) ↔
        m.serves clause = true ∨ ∀ v ∈ versions, Version.parse? v ≠ none) := by
  intro versions
  have keeps := keepsLeast_of_load loaded member
  exact ⟨keeps.serves_iff clause, keeps.serves_iff_exists_iff clause⟩

/-- An import that the least of four exports serves. -/
theorem serves_iff_exists_version_family :
    let m : Module := ⟨"M", "1", [0, 2]⟩
    let versions := Descriptor.versionsInto ([.ofItem] ++ [.ofSecondItem, .ofBase]) "M"
    m ∈ (ofComponents [.item, .secondItem, .base]).modules ∧
      (m.serves "1.5 as Family" = true ↔
        ∃ v ∈ versions, Version.satisfies v "1.5 as Family" = true) := by
  intro m versions
  have member : m ∈ (ofComponents [.item, .secondItem, .base]).modules := by decide +kernel
  have serves : m.serves "1.5 as Family" = true := by decide +kernel
  exact ⟨member, (serves_iff_exists_version load_family member _).2.2 (Or.inl serves)⟩

/-- A module with two exports, one of which has no version, turns down an import that this
one would serve. -/
theorem not_serves_iff_exists_version :
    let descriptors : List Descriptor :=
      [⟨"m.json",
        "\x7b\"components\":[\x7b\"name\":\"A\",\"exports\":[\"M/A 2\",\"M/A rc\"]\x7d]\x7d"⟩]
    let catalog := ofComponents
      [⟨"A", ⟨["M"], "A", "2"⟩, [⟨["M"], "A", "rc"⟩], none, [], [], [], []⟩]
    let m : Module := ⟨"M", "2", [0]⟩
    load descriptors = .ok catalog ∧ m ∈ catalog.modules ∧
      Descriptor.versionsInto descriptors m.name = ["2", "rc"] ∧
      m.serves "1" = false ∧ Version.satisfies "rc" "1" = true ∧
      ¬(m.serves "1" = true ↔
        ∃ v ∈ Descriptor.versionsInto descriptors m.name, Version.satisfies v "1" = true) := by
  decide +kernel

end Catalog

end QmlAssist
