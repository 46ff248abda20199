import QmlAssist.Proofs.Analysis.Climbing
import QmlAssist.Proofs.Completion.Lineage
import QmlAssist.Proofs.Reference.Hover

/-!
# Repeated imports

A module that is imported twice brings its components into scope twice.  Nothing is made of the
second time: whatever is read off the components in scope is the same as if each of them were
there once, in the order in which they came up first.

## Main Definitions

* `IgnoresRepeats` — a function of lists to which items are lost that came up before.

## Main Statements

* `IgnoresRepeats.eq_of_eraseDups_eq` — such a function sees first occurrences only.
* `ignoresRepeats_foldl_pushNew` — collecting new candidates is such a function.
* `Analysis.repeated_imports_unobservable` — what analyses with the same first occurrences of
  components have in common.

## Design Notes

Each use of the components in scope drops repetitions in its own way: names and links by
`List.eraseDups`, members by `Candidate.pushNew`.  A component that is repeated stands for a whole
stretch of links, or of members of its own and of all that it inherits from.  All of them came up
when the component came up first, so the whole stretch is lost (`IgnoresRepeats.comp_flatMap`),
whatever was added in between.
-/

namespace QmlAssist

/-! ### Functions that ignore repeats -/

/-- A function of lists to which an item is lost that came up before. -/
def IgnoresRepeats {α β : Type} (f : List α → β) : Prop :=
  ∀ front x back, x ∈ front → f (front ++ x :: back) = f (front ++ back)

namespace IgnoresRepeats

variable {α β γ : Type}

/-- A stretch of items that came up before is lost. -/
theorem append_of_subset {f : List α → β} (ignores : IgnoresRepeats f) {front known : List α}
    (subset : known ⊆ front) (back : List α) :
    f (front ++ (known ++ back)) = f (front ++ back) := by
  induction known with
  | nil => rfl
  | cons x known ih =>
      rw [List.cons_subset] at subset
      rw [List.cons_append, ignores front x _ subset.1, ih subset.2]

/-- If each item stands for a stretch of others, repeats of it are repeats of the whole stretch. -/
theorem comp_flatMap {f : List β → γ} (ignores : IgnoresRepeats f) (g : α → List β) :
    IgnoresRepeats fun items => f (items.flatMap g) := by
  intro front x back known
  show f ((front ++ x :: back).flatMap g) = f ((front ++ back).flatMap g)
  rw [List.flatMap_append, List.flatMap_cons, List.flatMap_append]
  refine ignores.append_of_subset ?_ _
  intro y member
  exact List.mem_flatMap.2 ⟨x, known, member⟩

theorem comp_filterMap {f : List β → γ} (ignores : IgnoresRepeats f) (g : α → Option β) :
    IgnoresRepeats fun items => f (items.filterMap g) := by
  intro front x back known
  show f ((front ++ x :: back).filterMap g) = f ((front ++ back).filterMap g)
  rw [List.filterMap_append, List.filterMap_append]
  cases image : g x with
  | none => rw [List.filterMap_cons_none image]
  | some y =>
      rw [List.filterMap_cons_some image]
      exact ignores _ y _ (List.mem_filterMap.2 ⟨x, known, image⟩)

theorem comp_map {f : List β → γ} (ignores : IgnoresRepeats f) (g : α → β) :
    IgnoresRepeats fun items => f (items.map g) := by
  have images := ignores.comp_filterMap (some ∘ g)
  rwa [List.filterMap_eq_map] at images

theorem comp_filter {f : List α → β} (ignores : IgnoresRepeats f) (keep : α → Bool) :
    IgnoresRepeats fun items => f (items.filter keep) := by
  have kept := ignores.comp_filterMap (Option.guard keep)
  rwa [List.filterMap_eq_filter] at kept

/-- Only first occurrences are seen.  The induction takes items from the end, where the last one
is new or not. -/
theorem eraseDups [BEq α] [LawfulBEq α] {f : List α → β} (ignores : IgnoresRepeats f)
    (items back : List α) : f (items.eraseDups ++ back) = f (items ++ back) := by
  induction items using List.reverseRecOn generalizing back with
  | nil => rfl
  | append_singleton items x ih =>
      rw [eraseDups_concat, List.append_assoc, List.singleton_append]
      split
      next known => rw [ih, ignores items x back known]
      next => rw [List.append_assoc, List.singleton_append, ih]

theorem eq_of_eraseDups_eq [BEq α] [LawfulBEq α] {f : List α → β} (ignores : IgnoresRepeats f)
    {items others : List α} (same : items.eraseDups = others.eraseDups) : f items = f others := by
  have left := ignores.eraseDups items []
  have right := ignores.eraseDups others []
  rw [List.append_nil, List.append_nil] at left right
  rw [← left, same, right]

end IgnoresRepeats

/-! ### Two ways to drop repeats -/

theorem ignoresRepeats_eraseDups {α : Type} [BEq α] [LawfulBEq α] :
    IgnoresRepeats (List.eraseDups : List α → List α) := by
  intro front x back known
  have dropped : (x :: back).removeAll front = back.removeAll front := by
    simp [List.removeAll, known]
  rw [List.eraseDups_append, List.eraseDups_append, dropped]

/-- Collecting candidates whose entries are new. -/
theorem ignoresRepeats_foldl_pushNew :
    IgnoresRepeats fun candidates : List Candidate => candidates.foldl Candidate.pushNew [] := by
  intro front c back known
  show (front ++ c :: back).foldl Candidate.pushNew [] = (front ++ back).foldl Candidate.pushNew []
  have collected : c.entry ∈ (front.foldl Candidate.pushNew []).map Candidate.entry := by
    rw [Candidate.mem_map_entry_foldl_pushNew, List.nil_append]
    exact List.mem_map_of_mem known
  rw [List.foldl_append, List.foldl_cons, List.foldl_append, Candidate.pushNew_eq,
    if_pos collected, List.append_nil]

namespace Analysis

/-! ### Uses of the components in scope -/

section Scope

variable {a b : Analysis} (catalog : a.catalog = b.catalog)
  (same : a.components.eraseDups = b.components.eraseDups)

include catalog same

/-- What ignores repeats is the same of components in scope with the same first occurrences. -/
theorem scope_congr {β : Type} {f : List (ComponentId × Component) → β}
    (ignores : IgnoresRepeats f) : f a.scope = f b.scope := by
  unfold scope
  rw [catalog]
  exact (ignores.comp_filterMap _).eq_of_eraseDups_eq same

theorem eraseDups_typeNames_congr : a.typeNames.eraseDups = b.typeNames.eraseDups := by
  rw [← map_typeName_scope, ← map_typeName_scope]
  exact scope_congr catalog same (ignoresRepeats_eraseDups.comp_map _)

theorem mem_typeNames_congr (name : String) : name ∈ a.typeNames ↔ name ∈ b.typeNames := by
  rw [← List.mem_eraseDups, eraseDups_typeNames_congr catalog same, List.mem_eraseDups]

theorem referenceUrls_congr (name : String) : a.referenceUrls name = b.referenceUrls name :=
  scope_congr catalog same ((ignoresRepeats_eraseDups.comp_flatMap _).comp_filter _)

/-- Members are collected along the prototypes of one component after the other, all in one
list. -/
theorem typeMembers_congr (name : String) : a.typeMembers name = b.typeMembers name := by
  have collected : ∀ a : Analysis, a.typeMembers name =
      ((a.named name).flatMap fun x => (a.catalog.lineage x.2).flatMap Component.ownMembers).foldl
        Candidate.pushNew [] := by
    intro a
    rw [List.foldl_flatMap]
    rfl
  rw [collected, collected, catalog]
  exact scope_congr catalog same ((ignoresRepeats_foldl_pushNew.comp_flatMap _).comp_filter _)

end Scope

/-- The candidates for types are the names in scope, each where it came up first. -/
theorem Consistent.typeCandidates_eq {a : Analysis} (consistent : a.Consistent) :
    a.candidates.filter (·.kind = .componentType) =
      a.typeNames.eraseDups.map (⟨·, .componentType, none⟩) := by
  obtain ⟨names, first, candidates⟩ := consistent.exists_typeCandidates
  rw [candidates, first.unique (firstOccurrences_eraseDups _)]

/-- **Repeated imports do not show.**  Take two analyses with one catalog, after whatever passes
over whatever texts, in which the components in scope have the same first occurrences.  They offer
the same types, in the same order.  Every name is the name of a type in both or in none, and has
the same links; the name of a type has the same members.  And at every cursor of every document
they report the same type. -/
theorem repeated_imports_unobservable (catalog : Catalog) (text text' : String)
    (passes passes' : List Pass)
    (same : ((ofText catalog text).after passes).components.eraseDups =
      ((ofText catalog text').after passes').components.eraseDups) :
    let a := (ofText catalog text).after passes
    let b := (ofText catalog text').after passes'
    a.candidates.filter (·.kind = .componentType) =
        b.candidates.filter (·.kind = .componentType) ∧
      (∀ name, a.isTypeName name = b.isTypeName name ∧
        a.referenceUrls name = b.referenceUrls name ∧
        (a.isTypeName name = true → a.subjectMembers name = b.subjectMembers name)) ∧
      ∀ (d : Document) (p : Position),
        a.enclosingType? (d.cursor p) = b.enclosingType? (d.cursor p) := by
  intro a b
  have catalogs : a.catalog = b.catalog :=
    (catalog_after catalog text passes).trans (catalog_after catalog text' passes').symm
  have names : ∀ name, name ∈ a.typeNames ↔ name ∈ b.typeNames := mem_typeNames_congr catalogs same
  refine ⟨?_, ?_, ?_⟩
  · rw [(consistent_after catalog text passes).typeCandidates_eq,
      (consistent_after catalog text' passes').typeCandidates_eq,
      eraseDups_typeNames_congr catalogs same]
  · intro name
    have isTypeName : a.isTypeName name = b.isTypeName name := by
      rw [Bool.eq_iff_iff, isTypeName_eq_true_iff, isTypeName_eq_true_iff]
      exact names name
    refine ⟨isTypeName, referenceUrls_congr catalogs same name, ?_⟩
    intro isType
    have inScope : name ∈ a.typeNames := isTypeName_eq_true_iff.1 isType
    by_cases spelled : name = ""
    · subst spelled
      rfl
    · rw [subjectMembers_of_mem inScope spelled,
        subjectMembers_of_mem ((names name).1 inScope) spelled, typeMembers_congr catalogs same]
  · intro d p
    exact enclosingType?_congr rfl names

/-- A module that is imported once and twice.  The second import brings the same components into
scope again, one of which inherits from the other, and their members are offered once. -/
theorem repeated_imports_unobservable_twice :
    let catalog := Catalog.ofComponents [.item, .secondItem, .base]
    let a := (ofText catalog "import M").after []
    let b := (ofText catalog "").after [.update "import M\nimport M", .resolveIds]
    a.components = [0, 2] ∧ b.components = [0, 2, 0, 2] ∧
      a.components.eraseDups = b.components.eraseDups ∧
      b.candidates.filter (·.kind = .componentType) =
        [⟨"Item", .componentType, none⟩, ⟨"B", .componentType, none⟩] ∧
      b.subjectMembers "Item" = [⟨"x", .method, some "Item"⟩, ⟨"y", .method, some "B"⟩] := by
  intro catalog a b
  have once : a.components = [0, 2] := by decide +kernel
  have twice : b.components = [0, 2, 0, 2] := by decide +kernel
  have same : a.components.eraseDups = b.components.eraseDups := by
    rw [once, twice]
    rfl
  obtain ⟨types, names, -⟩ := repeated_imports_unobservable catalog "import M" "" [] _ same
  have isType : a.isTypeName "Item" = true := by decide +kernel
  refine ⟨once, twice, same, types.symm.trans ?_, ((names "Item").2.2 isType).symm.trans ?_⟩
  · decide +kernel
  · decide +kernel

end Analysis

end QmlAssist
