import Mathlib.Data.List.Induction
import QmlAssist.Completion.Basic
import QmlAssist.Proofs.Analysis.Enclosing
import QmlAssist.Proofs.Analysis.History
import QmlAssist.Proofs.Catalog.WellFormed
import QmlAssist.Proofs.Text.Occurrence

/-!
# What the findings of an analysis say about each other

An analysis keeps its findings in four lists: modules, components, candidates and bindings.
Whatever passes it went through, the components are those of the modules, the candidates
are made of the components and the bindings, and every binding has a type in scope.

## Main Definitions

* `FirstOccurrences` — the items of a list, each once, in order of first occurrence.
* `Analysis.typeNames` — the names of the components in scope.
* `Analysis.Consistent` — what holds of an analysis at any time.

## Main Statements

* `Analysis.Pass.run_consistent` — each pass keeps an analysis consistent.
* `Analysis.consistent_after` — so do any passes.
* `Analysis.consistent_after_load` — what follows for catalogs that are loaded, and for ids.

## Design Notes

Nothing of this depends on the catalog, except that the numbers of the components in scope
are numbers of components.  That is a matter of the modules of the catalog, which list
such numbers only (`Catalog.WellFormed.components_inside`).
-/

namespace QmlAssist

/-! ### First occurrences -/

/-- The items of a list, each once, in the order in which they come up first. -/
structure FirstOccurrences {α : Type} [BEq α] (items firsts : List α) : Prop where
  mem_iff : ∀ x, x ∈ firsts ↔ x ∈ items
  ordered : firsts.Pairwise fun x y => items.idxOf x < items.idxOf y

theorem FirstOccurrences.nodup {α : Type} [BEq α] {items firsts : List α}
    (first : FirstOccurrences items firsts) : firsts.Nodup := by
  refine first.ordered.imp ?_
  rintro x y earlier rfl
  exact Nat.lt_irrefl _ earlier

/-- There is only one list of first occurrences, since both its items and their order are
given. -/
theorem FirstOccurrences.unique {α : Type} [BEq α] {items firsts others : List α}
    (first : FirstOccurrences items firsts) (other : FirstOccurrences items others) :
    firsts = others := by
  have same : firsts.Perm others := by
    rw [List.perm_ext_iff_of_nodup first.nodup other.nodup]
    intro x
    rw [first.mem_iff, other.mem_iff]
  refine same.eq_of_pairwise ?_ first.ordered other.ordered
  intro x y _ _ before after
  exact absurd before (Nat.lt_asymm after)

/-- One more item is kept if it is new. -/
theorem eraseDups_concat {α : Type} [BEq α] [LawfulBEq α] (items : List α) (x : α) :
    (items ++ [x]).eraseDups = if x ∈ items then items.eraseDups else items.eraseDups ++ [x] := by
  rw [List.eraseDups_append]
  split
  next known =>
    have dropped : [x].removeAll items = [] := by simp [List.removeAll, known]
    rw [dropped, List.eraseDups_nil, List.append_nil]
  next new =>
    have kept : [x].removeAll items = [x] := by simp [List.removeAll, new]
    rw [kept, List.eraseDups_cons, List.filter_nil, List.eraseDups_nil]

/-- What is left if all but the first of equal items are dropped.  The induction takes items
from the end, where the next one is new or not. -/
theorem firstOccurrences_eraseDups {α : Type} [BEq α] [LawfulBEq α] (items : List α) :
    FirstOccurrences items items.eraseDups := by
  refine ⟨fun x => List.mem_eraseDups, ?_⟩
  induction items using List.reverseRecOn with
  | nil => exact List.Pairwise.nil
  | append_singleton items x ih =>
      have earlier : items.eraseDups.Pairwise fun y z =>
          (items ++ [x]).idxOf y < (items ++ [x]).idxOf z := by
        refine ih.imp_of_mem ?_
        intro y z left right before
        rwa [List.idxOf_append_of_mem (List.mem_eraseDups.1 left),
          List.idxOf_append_of_mem (List.mem_eraseDups.1 right)]
      rw [eraseDups_concat]
      split
      next => exact earlier
      next new =>
        rw [List.pairwise_append]
        refine ⟨earlier, List.pairwise_singleton _ _, ?_⟩
        intro y left z right
        obtain rfl := List.mem_singleton.1 right
        have member : y ∈ items := List.mem_eraseDups.1 left
        rw [List.idxOf_append_of_mem member, List.idxOf_append_of_notMem new]
        exact Nat.lt_of_lt_of_le (List.idxOf_lt_length_of_mem member) (Nat.le_add_right _ _)

/-! ### What is found is spelled with characters -/

/-- What holds of everything that a pattern recognises holds of its occurrences. -/
theorem Text.forall_mem_occurrencesAfter {α : Type} {pattern : Pattern α} {P : α → Prop}
    (recognised : ∀ before cs value length, pattern before cs = some (value, length) → P value)
    (before : List Char) (skip : Nat) (cs : List Char) :
    ∀ value ∈ occurrencesAfter pattern before skip cs, P value := by
  induction cs generalizing before skip with
  | nil =>
      intro value member
      cases skip <;> cases member
  | cons c rest ih =>
      cases skip with
      | succ skip => exact ih (c :: before) skip
      | zero =>
          intro value member
          rw [occurrencesAfter] at member
          split at member
          next found length here =>
            rcases List.mem_cons.1 member with rfl | later
            · exact recognised _ _ _ _ here
            · exact ih _ _ value later
          next => exact ih _ _ value member

/-- A declared id is not empty. -/
theorem Declaration.id_ne_empty_of_mem_all {text : String} {d : Declaration}
    (member : d ∈ all text) : d.id ≠ "" := by
  refine Text.forall_mem_occurrencesAfter (P := fun d => d.id ≠ "") ?_ _ _ _ d member
  intro before cs value length found
  simp only [pattern, Option.bind_eq_bind, Option.bind_eq_some_iff,
    Option.ite_none_left_eq_some, not_or, Option.some.injEq, Prod.mk.injEq] at found
  obtain ⟨afterWord, -, afterColon, -, ⟨-, nonempty⟩, rfl, -⟩ := found
  intro empty
  exact nonempty (by simpa using congrArg String.toList empty)

namespace Analysis

/-- A reported type is not empty. -/
theorem ne_empty_of_enclosingType?_eq_some {a : Analysis} {c : Cursor} {type : String}
    (found : a.enclosingType? c = some type) : type ≠ "" := by
  obtain ⟨head, met, rfl⟩ := exists_of_enclosingType?_eq_some found
  obtain ⟨-, c, earlier, rfl, word⟩ := Text.suffix_of_mem_climb met
  exact Text.lastWord_ne_empty word

/-! ### Names in scope -/

/-- The names by which markup knows the components in scope, component after component. -/
def typeNames (a : Analysis) : List String :=
  a.components.filterMap fun id => (a.catalog.component? id).map Component.typeName

theorem typeNames_congr {a b : Analysis} (catalog : a.catalog = b.catalog)
    (components : a.components = b.components) : a.typeNames = b.typeNames := by
  rw [typeNames, typeNames, catalog, components]

theorem map_typeName_scope (a : Analysis) : a.scope.map (·.2.typeName) = a.typeNames := by
  rw [scope, typeNames, List.map_filterMap]
  refine List.filterMap_congr fun id _ => ?_
  rw [Option.map_map]
  rfl

theorem isTypeName_eq_true_iff {a : Analysis} {name : String} :
    a.isTypeName name = true ↔ name ∈ a.typeNames := by
  rw [← map_typeName_scope, isTypeName, List.any_eq_true, List.mem_map]
  simp only [beq_iff_eq]

/-! ### Consistent findings -/

/-- What holds of an analysis at any time. -/
structure Consistent (a : Analysis) : Prop where
  /-- Every imported module has a place in the catalog. -/
  modules_inside : ∀ m ∈ a.modules, ∃ place : Nat, a.catalog.modules[place]? = some m
  /-- The components are those of the modules, module after module. -/
  components_eq : a.components = a.modules.flatMap Module.components
  /-- The candidates are the names in scope, each once and in order of first occurrence, then
  keywords, primitive types, and one id for every binding. -/
  candidates_eq : ∃ names, FirstOccurrences a.typeNames names ∧
    a.candidates =
      names.map (⟨·, .componentType, none⟩) ++
        (keywords.map (⟨·, .keyword, none⟩) ++ builtinTypes.map (⟨·, .builtinType, none⟩)) ++
        a.bindings.map fun b => ⟨b.id, .identifier, some ("Type of: " ++ b.type)⟩
  /-- The type of every binding is a name in scope. -/
  bindings_inScope : ∀ b ∈ a.bindings, b.type ∈ a.typeNames
  /-- Ids and types are not empty. -/
  bindings_spelled : ∀ b ∈ a.bindings, b.id ≠ "" ∧ b.type ≠ ""

/-- The names of types, keywords and primitive types are no ids. -/
theorem kind_ne_identifier {names : List String} {c : Candidate}
    (member : c ∈ names.map (⟨·, .componentType, none⟩) ++ fixedCandidates) :
    c.kind ≠ .identifier := by
  rw [fixedCandidates, List.mem_append, List.mem_append, List.mem_map, List.mem_map,
    List.mem_map] at member
  rcases member with ⟨name, -, rfl⟩ | ⟨name, -, rfl⟩ | ⟨name, -, rfl⟩
  · simp
  · simp
  · simp

/-- Every search for imports gives consistent findings. -/
theorem consistent_resolveImports (a : Analysis) : a.resolveImports.Consistent where
  modules_inside := by
    intro m member
    obtain ⟨i, -, brought⟩ := List.mem_flatMap.1 member
    exact List.getElem?_of_mem (List.mem_filter.1 brought).1
  components_eq := rfl
  candidates_eq := by
    -- the candidates are written when the components are in scope already
    obtain ⟨inScope, candidates, names⟩ : ∃ inScope : Analysis,
        a.resolveImports.candidates = inScope.typeCandidates ++ fixedCandidates ∧
          inScope.typeNames = a.resolveImports.typeNames :=
      ⟨_, rfl, typeNames_congr rfl rfl⟩
    have unbound : a.resolveImports.bindings = [] := rfl
    refine ⟨a.resolveImports.typeNames.eraseDups, firstOccurrences_eraseDups _, ?_⟩
    rw [candidates, unbound, List.map_nil, List.append_nil, typeCandidates, map_typeName_scope,
      names, fixedCandidates]
  bindings_inScope := by
    intro b member
    cases member
  bindings_spelled := by
    intro b member
    cases member

/-- The bindings that are found have an id, and a type in scope. -/
theorem spelled_inScope_of_mem_findBindings {a : Analysis} {b : Binding}
    (member : b ∈ a.findBindings) : (b.id ≠ "" ∧ b.type ≠ "") ∧ b.type ∈ a.typeNames := by
  obtain ⟨d, declared, bound⟩ := List.mem_filterMap.1 member
  obtain ⟨type, found, rfl⟩ := Option.map_eq_some_iff.1 bound
  refine ⟨⟨Declaration.id_ne_empty_of_mem_all declared,
    ne_empty_of_enclosingType?_eq_some found⟩, ?_⟩
  exact isTypeName_eq_true_iff.1 (List.find?_some found)

/-- Without the ids, the candidates are the names in scope and what every document is
offered. -/
theorem Consistent.exists_names {a : Analysis} (consistent : a.Consistent) :
    ∃ names, FirstOccurrences a.typeNames names ∧
      a.candidates.filter (·.kind ≠ .identifier) =
        names.map (⟨·, .componentType, none⟩) ++ fixedCandidates := by
  obtain ⟨names, first, candidates⟩ := consistent.candidates_eq
  refine ⟨names, first, ?_⟩
  rw [candidates, List.filter_append, List.filter_eq_self.2, List.filter_eq_nil_iff.2,
    List.append_nil]
  · rfl
  · intro c member
    obtain ⟨b, -, rfl⟩ := List.mem_map.1 member
    simp
  · intro c member
    simpa using kind_ne_identifier member

/-- The candidates for types, among all candidates. -/
theorem Consistent.exists_typeCandidates {a : Analysis} (consistent : a.Consistent) :
    ∃ names, FirstOccurrences a.typeNames names ∧
      a.candidates.filter (·.kind = .componentType) = names.map (⟨·, .componentType, none⟩) := by
  obtain ⟨names, first, candidates⟩ := consistent.candidates_eq
  refine ⟨names, first, ?_⟩
  rw [candidates, List.append_assoc, List.filter_append, List.filter_eq_self.2,
    List.filter_eq_nil_iff.2, List.append_nil]
  · intro c member
    simp only [List.mem_append, List.mem_map] at member
    rcases member with (⟨name, -, rfl⟩ | ⟨name, -, rfl⟩) | ⟨b, -, rfl⟩
    · simp
    · simp
    · simp
  · intro c member
    obtain ⟨name, -, rfl⟩ := List.mem_map.1 member
    simp

/-- A search for ids replaces the ids among the candidates, and nothing else. -/
theorem Consistent.resolveIds {a : Analysis} (consistent : a.Consistent) :
    a.resolveIds.Consistent where
  modules_inside := consistent.modules_inside
  components_eq := consistent.components_eq
  candidates_eq := by
    obtain ⟨names, first, others⟩ := consistent.exists_names
    refine ⟨names, first, ?_⟩
    show a.candidates.filter (·.kind ≠ .identifier) ++ a.findBindings.map Binding.candidate = _
    rw [others]
    rfl
  bindings_inScope := by
    intro b member
    exact (spelled_inScope_of_mem_findBindings member).2
  bindings_spelled := by
    intro b member
    exact (spelled_inScope_of_mem_findBindings member).1

/-! ### Any passes -/

/-- Each pass keeps an analysis consistent. -/
theorem Pass.run_consistent (pass : Pass) {a : Analysis} (consistent : a.Consistent) :
    (pass.run a).Consistent := by
  cases pass with
  | update text => exact (consistent_resolveImports _).resolveIds
  | resolveImports => exact consistent_resolveImports a
  | resolveIds => exact consistent.resolveIds

theorem consistent_ofText (catalog : Catalog) (text : String) :
    (ofText catalog text).Consistent :=
  (consistent_resolveImports _).resolveIds

/-- An analysis is consistent after any passes. -/
theorem consistent_after (catalog : Catalog) (text : String) (passes : List Pass) :
    ((ofText catalog text).after passes).Consistent := by
  induction passes using List.reverseRecOn with
  | nil => exact consistent_ofText catalog text
  | append_singleton passes pass ih =>
      rw [after_concat]
      exact pass.run_consistent ih

theorem catalog_after (catalog : Catalog) (text : String) (passes : List Pass) :
    ((ofText catalog text).after passes).catalog = catalog := by
  induction passes using List.reverseRecOn with
  | nil => rfl
  | append_singleton passes pass ih =>
      rw [after_concat]
      cases pass <;> exact ih

/-! ### Numbers of components, and ids -/

/-- The numbers of the components in scope are numbers of components if this is so for the
modules of the catalog. -/
theorem Consistent.components_inside {a : Analysis} (consistent : a.Consistent)
    (wellFormed : a.catalog.WellFormed) :
    ∀ id ∈ a.components, id < a.catalog.components.length := by
  intro id member
  rw [consistent.components_eq] at member
  obtain ⟨m, imported, listed⟩ := List.mem_flatMap.1 member
  obtain ⟨place, found⟩ := consistent.modules_inside m imported
  exact wellFormed.components_inside m (List.mem_of_getElem? found) id listed

/-- A name in scope stands for itself. -/
theorem subjectMembers_of_mem {a : Analysis} {type : String} (inScope : type ∈ a.typeNames)
    (spelled : type ≠ "") : a.subjectMembers type = a.typeMembers type := by
  simp [subjectMembers, typeOf?, spelled, isTypeName_eq_true_iff.2 inScope]

/-- An id that is no name in scope stands for the type of its first binding. -/
theorem Consistent.subjectMembers_eq {a : Analysis} (consistent : a.Consistent) {x : String}
    {b : Binding} (first : a.binding? x = some b) (noType : a.isTypeName x = false) :
    a.subjectMembers x = a.subjectMembers b.type := by
  have member : b ∈ a.bindings := List.mem_of_find?_eq_some first
  obtain ⟨idSpelled, typeSpelled⟩ := consistent.bindings_spelled b member
  have named := List.find?_some first
  obtain rfl : b.id = x := eq_of_beq named
  rw [subjectMembers_of_mem (consistent.bindings_inScope b member) typeSpelled]
  simp [subjectMembers, typeOf?, noType, first, idSpelled]

/-- **The findings of an analysis stay consistent.**  With a catalog that was loaded, or the
empty one, after any passes over any texts, the findings are consistent and all numbers in
scope are numbers of components.  So an id that is no name in scope has the members of the
type of its first binding. -/
theorem consistent_after_load {catalog : Catalog}
    (built : catalog = .empty ∨ ∃ descriptors, Catalog.load descriptors = .ok catalog)
    (text : String) (passes : List Pass) :
    let a := (ofText catalog text).after passes
    a.catalog = catalog ∧ a.Consistent ∧
      (∀ id ∈ a.components, id < catalog.components.length) ∧
      ∀ x, (∃ b ∈ a.bindings, b.id = x) → a.isTypeName x = false →
        ∃ first, a.binding? x = some first ∧
          a.subjectMembers x = a.subjectMembers first.type := by
  intro a
  have sameCatalog : a.catalog = catalog := catalog_after catalog text passes
  have consistent : a.Consistent := consistent_after catalog text passes
  have wellFormed : catalog.WellFormed := by
    rcases built with rfl | ⟨descriptors, loaded⟩
    · exact Catalog.wellFormed_ofComponents []
    · obtain ⟨-, rfl⟩ := Catalog.load_eq_ok_iff.1 loaded
      exact Catalog.wellFormed_ofComponents _
  refine ⟨sameCatalog, consistent, ?_, ?_⟩
  · rw [← sameCatalog] at wellFormed ⊢
    exact consistent.components_inside wellFormed
  · rintro x ⟨b, bound, named⟩ noType
    have found : (a.binding? x).isSome = true := by
      rw [binding?, List.find?_isSome]
      exact ⟨b, bound, by simp [named]⟩
    obtain ⟨first, isFirst⟩ := Option.isSome_iff_exists.1 found
    exact ⟨first, isFirst, consistent.subjectMembers_eq isFirst noType⟩

/-- A document that declares an id in two blocks, one inside the other. -/
def declaredTwice : String :=
  "import M 4\nItem \x7b id: a\n B \x7b id: a \x7d \x7d"

/-- An id that is declared in two blocks has the members of the first one, which inherits
some of them. -/
theorem consistent_after_load_twice :
    let catalog := Catalog.ofComponents [.item, .secondItem, .base]
    let passes := [.update declaredTwice, .resolveImports, .resolveIds]
    let a := (ofText catalog "").after passes
    Catalog.load ([.ofItem] ++ [.ofSecondItem, .ofBase]) = .ok catalog ∧
      a.bindings = [⟨"a", "Item"⟩, ⟨"a", "B"⟩] ∧ a.isTypeName "a" = false ∧
      a.Consistent ∧ a.subjectMembers "a" = a.subjectMembers "Item" ∧
      a.subjectMembers "Item" = [⟨"x", .method, some "Item"⟩, ⟨"y", .method, some "B"⟩] := by
  intro catalog passes a
  have findings := consistent_after_load (Or.inr ⟨_, Catalog.load_family⟩) "" passes
  have bindings : a.bindings = [⟨"a", "Item"⟩, ⟨"a", "B"⟩] := by decide +kernel
  have noType : a.isTypeName "a" = false := by decide +kernel
  have bound : ∃ b ∈ a.bindings, b.id = "a" := ⟨⟨"a", "Item"⟩, by rw [bindings]; simp, rfl⟩
  obtain ⟨first, isFirst, members⟩ := findings.2.2.2 "a" bound noType
  obtain rfl : first = ⟨"a", "Item"⟩ := by
    rw [binding?, bindings, List.find?_cons_of_pos (by simp), Option.some.injEq] at isFirst
    exact isFirst.symm
  exact ⟨Catalog.load_family, bindings, noType, findings.2.1, members, by decide +kernel⟩

end Analysis

end QmlAssist
