import Mathlib.Data.List.Count
import Mathlib.Data.List.Nodup
import QmlAssist.Proofs.Analysis.Consistent

/-!
# Completion lists have no duplicates

A completion list is put together from parts: the members of a type, the names in scope,
keywords and primitive types, the ids of the document, or the modules of the catalog.  No
part offers an entry twice, ids apart, and different parts offer candidates of different
kinds.

## Main Definitions

* `Candidate.entry` — what tells two candidates apart.
* `CandidateKind.ofMembers` — the kinds of members.
* `Candidate.AreMembers` — candidates for members, with each entry once.

## Main Statements

* `Candidate.AreMembers.foldl_pushNew` — adding what is new keeps such a list.
* `Analysis.areMembers_typeMembers` — the members of a type are such a list.
* `Analysis.complete_entries` — the entries of every completion list.

## Design Notes

Entries are compared by label and kind.  A type may stand for several components in scope,
and each of them has ancestors, but all their members go through the same test
(`Candidate.pushNew`).  So one step lemma about that test carries over to the whole list,
whatever the components and however often they are imported.
-/

namespace QmlAssist

/-- The kinds of members. -/
def CandidateKind.ofMembers : List CandidateKind :=
  [.property, .method, .signal, .enumMember]

namespace Candidate

/-- What tells two candidates apart. -/
def entry (c : Candidate) : String × CandidateKind :=
  (c.label, c.kind)

theorem sameEntry_eq_true_iff {c d : Candidate} : c.sameEntry d = true ↔ c.entry = d.entry := by
  simp [sameEntry, entry]

/-- Candidates for members, with each entry once. -/
structure AreMembers (items : List Candidate) : Prop where
  entries_nodup : (items.map entry).Nodup
  kind_mem : ∀ c ∈ items, c.kind ∈ CandidateKind.ofMembers

namespace AreMembers

theorem nil : AreMembers [] where
  entries_nodup := List.nodup_nil
  kind_mem := by simp

/-- A member joins only if its entry is new. -/
theorem pushNew {items : List Candidate} (members : AreMembers items) {c : Candidate}
    (kind : c.kind ∈ CandidateKind.ofMembers) : AreMembers (pushNew items c) := by
  unfold Candidate.pushNew
  split
  next => exact members
  next isNew =>
    have absent : c.entry ∉ items.map entry := by
      intro member
      obtain ⟨d, found, same⟩ := List.mem_map.1 member
      exact isNew (List.any_eq_true.2 ⟨d, found, sameEntry_eq_true_iff.2 same⟩)
    refine ⟨?_, ?_⟩
    · rw [List.map_append, List.map_singleton, ← List.concat_eq_append]
      exact members.entries_nodup.concat absent
    · intro d member
      rcases List.mem_append.1 member with old | last
      · exact members.kind_mem d old
      · rwa [List.mem_singleton.1 last]

theorem foldl_pushNew {items more : List Candidate} (members : AreMembers items)
    (kinds : ∀ c ∈ more, c.kind ∈ CandidateKind.ofMembers) :
    AreMembers (more.foldl Candidate.pushNew items) := by
  induction more generalizing items with
  | nil => exact members
  | cons c more ih =>
      rw [List.forall_mem_cons] at kinds
      exact ih (members.pushNew kinds.1) kinds.2

/-- No member is of another kind. -/
theorem entry_not_mem {items : List Candidate} (members : AreMembers items) {label : String}
    {kind : CandidateKind} (other : kind ∉ CandidateKind.ofMembers) :
    (label, kind) ∉ items.map entry := by
  intro member
  obtain ⟨c, found, same⟩ := List.mem_map.1 member
  obtain rfl : c.kind = kind := congrArg Prod.snd same
  exact other (members.kind_mem c found)

end AreMembers

end Candidate

open Candidate

/-! ### Members of types -/

theorem Component.kind_mem_of_mem_ownMembers {c : Component} {m : Candidate}
    (member : m ∈ c.ownMembers) : m.kind ∈ CandidateKind.ofMembers := by
  simp only [ownMembers, List.mem_append, List.mem_map, List.mem_flatMap, enumCandidates]
    at member
  rcases member with ((⟨p, -, rfl⟩ | ⟨p, -, rfl⟩) | ⟨p, -, rfl⟩) | ⟨e, -, v, -, rfl⟩
  · simp [propertyCandidate, CandidateKind.ofMembers]
  · simp [methodCandidate, CandidateKind.ofMembers]
  · simp [signalCandidate, CandidateKind.ofMembers]
  · simp [CandidateKind.ofMembers]

/-- The members of one more component keep a list of members. -/
theorem Catalog.areMembers_appendMembers (catalog : Catalog) {items : List Candidate}
    (members : AreMembers items) (c : Component) :
    AreMembers (catalog.appendMembers items c) := by
  refine members.foldl_pushNew ?_
  intro m member
  obtain ⟨ancestor, -, own⟩ := List.mem_flatMap.1 member
  exact ancestor.kind_mem_of_mem_ownMembers own

namespace Analysis

theorem areMembers_foldl_appendMembers (catalog : Catalog)
    (components : List (ComponentId × Component)) {items : List Candidate}
    (members : AreMembers items) :
    AreMembers (components.foldl (fun items (_, c) => catalog.appendMembers items c) items) := by
  induction components generalizing items with
  | nil => exact members
  | cons first components ih => exact ih (catalog.areMembers_appendMembers members first.2)

/-- The members of a type, however many components it stands for. -/
theorem areMembers_typeMembers (a : Analysis) (type : String) :
    AreMembers (a.typeMembers type) :=
  areMembers_foldl_appendMembers a.catalog (a.named type) AreMembers.nil

theorem areMembers_subjectMembers (a : Analysis) (subject : String) :
    AreMembers (a.subjectMembers subject) := by
  unfold subjectMembers
  split
  · exact AreMembers.nil
  · split
    · exact a.areMembers_typeMembers _
    · exact AreMembers.nil

/-- The members of the type around a cursor, if there is one. -/
theorem areMembers_elim (a : Analysis) (type? : Option String) :
    AreMembers (type?.elim [] a.typeMembers) := by
  cases type? with
  | none => exact AreMembers.nil
  | some type => exact a.areMembers_typeMembers type

theorem blockCandidates_eq (a : Analysis) (c : Cursor) :
    a.blockCandidates c = (a.enclosingType? c).elim [] a.typeMembers ++ a.candidates := by
  unfold blockCandidates
  cases a.enclosingType? c with
  | none => rfl
  | some type => rfl

/-! ### The candidates of the document -/

/-- What every document is offered has each entry once, and no names in scope. -/
theorem entries_fixedCandidates :
    (fixedCandidates.map entry).Nodup ∧
      ∀ e ∈ fixedCandidates.map entry, e.2 ≠ .componentType ∧ e.2 ∉ CandidateKind.ofMembers := by
  decide

/-- The candidates of the document, ids apart, have each entry once, and none of a member. -/
theorem Consistent.entries_standing {a : Analysis} (consistent : a.Consistent) :
    ((a.candidates.filter (·.kind ≠ .identifier)).map entry).Nodup ∧
      ∀ e ∈ (a.candidates.filter (·.kind ≠ .identifier)).map entry,
        e.2 ∉ CandidateKind.ofMembers := by
  obtain ⟨names, first, standing⟩ := consistent.exists_names
  obtain ⟨fixedNodup, fixedKinds⟩ := entries_fixedCandidates
  have types : (names.map (⟨·, .componentType, none⟩)).map entry =
      names.map (·, CandidateKind.componentType) := by
    rw [List.map_map]
    rfl
  rw [standing, List.map_append, types]
  refine ⟨List.nodup_append.2 ⟨first.nodup.map (Prod.mk_left_injective _), fixedNodup, ?_⟩, ?_⟩
  · rintro e named d fixed rfl
    obtain ⟨name, -, rfl⟩ := List.mem_map.1 named
    exact (fixedKinds _ fixed).1 rfl
  · intro e member
    rcases List.mem_append.1 member with named | fixed
    · obtain ⟨name, -, rfl⟩ := List.mem_map.1 named
      simp [CandidateKind.ofMembers]
    · exact (fixedKinds e fixed).2

/-- Among the candidates of the document, an id comes up once for each of its bindings. -/
theorem Consistent.count_candidates {a : Analysis} (consistent : a.Consistent) (x : String) :
    (a.candidates.map entry).count (x, .identifier) = (a.bindings.map Binding.id).count x := by
  obtain ⟨names, -, candidates⟩ := consistent.candidates_eq
  have noIds : (x, CandidateKind.identifier) ∉
      (names.map (fun name => (⟨name, .componentType, none⟩ : Candidate)) ++
        fixedCandidates).map entry := by
    intro member
    obtain ⟨c, found, same⟩ := List.mem_map.1 member
    exact kind_ne_identifier found (congrArg Prod.snd same)
  have ids : (a.bindings.map fun b : Binding =>
        (⟨b.id, .identifier, some ("Type of: " ++ b.type)⟩ : Candidate)).map entry =
      (a.bindings.map Binding.id).map (·, CandidateKind.identifier) := by
    rw [List.map_map, List.map_map]
    rfl
  rw [candidates, List.map_append, List.count_append, ids,
    List.count_map_of_injective _ _ (Prod.mk_left_injective _)]
  show List.count _ ((names.map _ ++ fixedCandidates).map entry) + _ = _
  rw [List.count_eq_zero.2 noIds, Nat.zero_add]

/-- Members in front of the candidates of the document add no entry that is there, and no
ids. -/
theorem Consistent.entries_append {a : Analysis} (consistent : a.Consistent)
    {items : List Candidate} (members : AreMembers items) :
    (((items ++ a.candidates).filter (·.kind ≠ .identifier)).map entry).Nodup ∧
      ∀ x, ((items ++ a.candidates).map entry).count (x, .identifier) =
        (a.bindings.map Binding.id).count x := by
  obtain ⟨nodup, kinds⟩ := consistent.entries_standing
  have kept : ((items.filter (·.kind ≠ .identifier)).map entry).Sublist (items.map entry) :=
    List.filter_sublist.map entry
  refine ⟨?_, ?_⟩
  · rw [List.filter_append, List.map_append]
    refine List.nodup_append.2 ⟨members.entries_nodup.sublist kept, nodup, ?_⟩
    rintro e ofMember d standing rfl
    exact members.entry_not_mem (kinds e standing) (kept.subset ofMember)
  · intro x
    have noIds : (x, CandidateKind.identifier) ∉ items.map entry :=
      members.entry_not_mem (by decide)
    rw [List.map_append, List.count_append, List.count_eq_zero.2 noIds, Nat.zero_add,
      consistent.count_candidates]

/-! ### Completion lists -/

theorem entries_moduleCandidates {a : Analysis} (wellFormed : a.catalog.WellFormed) :
    (a.moduleCandidates.map entry).Nodup := by
  have entries : a.moduleCandidates.map entry =
      (a.catalog.modules.map Module.name).map (·, CandidateKind.moduleName) := by
    rw [moduleCandidates, List.map_map, List.map_map]
    rfl
  rw [entries]
  exact wellFormed.names_nodup.map (Prod.mk_left_injective _)

/-- **Completion lists have no duplicates and no foreign kinds.**  In whatever document and
at whatever position, a completion list has each entry once, ids apart, and offers either no
ids or every id once for each of its bindings.  After `import` it has the modules of the
catalog, after a dot it has members only, and elsewhere it has the members of the enclosing
type and then all candidates of the document. -/
theorem complete_entries {descriptors : List Descriptor} {catalog : Catalog}
    (loaded : Catalog.load descriptors = .ok catalog) (text : String) (p : Position) :
    let a := ofText catalog text
    let cursor := (Document.ofText text).cursor p
    let answer := a.complete p
    ((answer.filter (·.kind ≠ .identifier)).map entry).Nodup ∧
      (∀ x, (answer.map entry).count (x, .identifier) = 0 ∨
        (answer.map entry).count (x, .identifier) = (a.bindings.map Binding.id).count x) ∧
      (cursor.context = .importPath →
        answer = catalog.modules.map fun m => ⟨m.name, .moduleName, none⟩) ∧
      (∀ subject, cursor.context = .memberAccess subject →
        ∀ c ∈ answer, c.kind ∈ CandidateKind.ofMembers) ∧
      (cursor.context = .general →
        answer = (a.enclosingType? cursor).elim [] a.typeMembers ++ a.candidates) := by
  intro a cursor answer
  have consistent : a.Consistent := consistent_ofText catalog text
  have wellFormed : a.catalog.WellFormed := by
    obtain ⟨-, rfl⟩ := Catalog.load_eq_ok_iff.1 loaded
    exact Catalog.wellFormed_ofComponents _
  have seen : ((Document.ofText a.text).cursor p).context = cursor.context := rfl
  cases context : cursor.context with
  | importPath =>
      rw [context] at seen
      have answered : answer = a.moduleCandidates := by simp only [answer, complete, seen]
      have nodup := entries_moduleCandidates wellFormed
      rw [answered]
      refine ⟨nodup.sublist (List.filter_sublist.map entry), ?_, fun _ => rfl, by simp, by simp⟩
      intro x
      refine Or.inl (List.count_eq_zero.2 ?_)
      simp [moduleCandidates, entry]
  | memberAccess subject =>
      rw [context] at seen
      have answered : answer = a.subjectMembers subject := by
        simp only [answer, complete, seen]
      have members := a.areMembers_subjectMembers subject
      rw [answered]
      refine ⟨members.entries_nodup.sublist (List.filter_sublist.map entry), ?_, by simp,
        fun _ _ => members.kind_mem, by simp⟩
      intro x
      exact Or.inl (List.count_eq_zero.2 (members.entry_not_mem (by decide)))
  | general =>
      rw [context] at seen
      have answered : answer = (a.enclosingType? cursor).elim [] a.typeMembers ++ a.candidates := by
        rw [← blockCandidates_eq]
        simp only [answer, complete, seen]
        rfl
      obtain ⟨nodup, ids⟩ := consistent.entries_append (a.areMembers_elim (a.enclosingType? cursor))
      rw [answered]
      exact ⟨nodup, fun x => Or.inr (ids x), by simp, by simp, fun _ => rfl⟩

/-- In a block with an id of its own and another block that has the same id, the members of
the enclosing type come first, and the id comes up twice. -/
theorem complete_entries_twice :
    let catalog := Catalog.ofComponents [.item, .secondItem, .base]
    let cursor := (Document.ofText declaredTwice).cursor ⟨1, 7⟩
    let answer := (ofText catalog declaredTwice).complete ⟨1, 7⟩
    Catalog.load ([.ofItem] ++ [.ofSecondItem, .ofBase]) = .ok catalog ∧
      cursor.context = .general ∧
      ((answer.filter (·.kind ≠ .identifier)).map entry).Nodup ∧
      (answer.map entry).take 4 =
        [("x", .method), ("y", .method), ("Item", .componentType), ("B", .componentType)] ∧
      (answer.map entry).count ("a", .identifier) = 2 := by
  intro catalog cursor answer
  have entries := complete_entries Catalog.load_family declaredTwice ⟨1, 7⟩
  exact ⟨Catalog.load_family, by decide +kernel, entries.1, by decide +kernel, by decide +kernel⟩

end Analysis

end QmlAssist
