import Mathlib.Data.List.Chain
import Mathlib.Data.List.Perm.Subperm
import QmlAssist.Proofs.Catalog.Extension
import QmlAssist.Proofs.Completion.Distinct

/-!
# Members along the prototypes

A component has its own members and those of the components that it inherits from.  This
module says which components these are, and which of their members are offered, without
following how either of them is found.

## Main Definitions

* `Catalog.prototype?` — the component that the prototype of a component names.
* `Catalog.IsPrototypeChain` — a component and all that it inherits from.
* `Candidate.newAmong` — the candidates whose entries are new where they stand.

## Main Statements

* `Catalog.isPrototypeChain_lineage` — the lineage of a component is such a chain.
* `Catalog.IsPrototypeChain.unique` — and there is no other one.
* `Candidate.foldl_pushNew_eq` — adding candidates one by one adds those that are new.
* `Catalog.appendMembers_eq_newAmong` — the members that a component adds to a list.

## Design Notes

Prototypes are names, which may be unknown, name the component itself, or lead back to a
component of a name that was there before.  A chain is therefore told by where it begins, how
it goes on and where it ends, and that this leaves exactly one list is proved and not built
in.  The lineage is found in another way: it leaves out components of visited names, so each
step searches a shorter list.  A component of another name is found in the shorter list
exactly if it is found in the whole one (`Component.parent?_otherThan_eq_some_iff`).
-/

namespace QmlAssist

/-! ### Searching among fewer components -/

namespace Component

/-- Leaving out a name hides the parent of that name and no other. -/
theorem parent?_otherThan_eq_some_iff {name : String} {unvisited : List Component}
    {c parent : Component} :
    c.parent? (otherThan name unvisited) = some parent ↔
      c.parent? unvisited = some parent ∧ parent.name ≠ name := by
  unfold parent? otherThan
  cases c.prototype with
  | none => simp
  | some wanted =>
      rw [Option.bind_some, Option.bind_some, List.find?_filter]
      by_cases hidden : wanted = name
      · -- whatever has the wanted name is left out
        subst hidden
        constructor
        · intro found
          have left := List.find?_some found
          simp at left
        · rintro ⟨found, other⟩
          have named := List.find?_some found
          exact absurd (eq_of_beq named) other
      · have same : (fun a : Component => decide ((a.name != name) = true ∧
            (a.name == wanted) = true)) = fun a => a.name == wanted := by
          funext a
          by_cases named : a.name = wanted
          · simp [named, hidden]
          · simp [named]
        rw [same]
        refine ⟨fun found => ⟨found, ?_⟩, And.left⟩
        have named := List.find?_some found
        rwa [eq_of_beq named]

theorem mem_of_mem_ancestors {unvisited : List Component} {c a : Component}
    (inherited : a ∈ c.ancestors unvisited) : a ∈ unvisited := by
  induction unvisited, c using ancestors.induct with
  | case1 unvisited c missing =>
      rw [ancestors_of_none missing] at inherited
      cases inherited
  | case2 unvisited c parent found ih =>
      rw [ancestors_of_some found] at inherited
      rcases List.mem_cons.1 inherited with rfl | further
      · exact parent?_mem found
      · exact (List.mem_filter.1 (ih further)).1

/-- What is inherited from among the components of other names has another name. -/
theorem name_ne_of_mem_ancestors {name : String} {unvisited : List Component} {c a : Component}
    (inherited : a ∈ c.ancestors (otherThan name unvisited)) : a.name ≠ name := by
  have kept := (List.mem_filter.1 (mem_of_mem_ancestors inherited)).2
  exact bne_iff_ne.1 kept

theorem nodup_names_ancestors (unvisited : List Component) (c : Component) :
    ((c.ancestors unvisited).map name).Nodup := by
  induction unvisited, c using ancestors.induct with
  | case1 unvisited c missing =>
      rw [ancestors_of_none missing]
      exact List.nodup_nil
  | case2 unvisited c parent found ih =>
      rw [ancestors_of_some found, List.map_cons, List.nodup_cons]
      refine ⟨?_, ih⟩
      intro again
      obtain ⟨a, inherited, named⟩ := List.mem_map.1 again
      exact name_ne_of_mem_ancestors inherited named

/-- Each ancestor is the parent of the one before. -/
theorem isChain_ancestors (unvisited : List Component) (c : Component) :
    (c :: c.ancestors unvisited).IsChain fun a b => a.parent? unvisited = some b := by
  induction unvisited, c using ancestors.induct with
  | case1 unvisited c missing =>
      rw [ancestors_of_none missing]
      exact List.isChain_singleton c
  | case2 unvisited c parent found ih =>
      rw [ancestors_of_some found, List.isChain_cons_cons]
      refine ⟨found, ih.imp ?_⟩
      intro a b next
      exact (parent?_otherThan_eq_some_iff.1 next).1

/-- The last of the ancestors has no parent, unless one of its name is among them. -/
theorem name_mem_of_parent?_getLast {unvisited : List Component} {c last next : Component}
    (isLast : (c :: c.ancestors unvisited).getLast? = some last)
    (found : last.parent? unvisited = some next) :
    next.name ∈ (c.ancestors unvisited).map name := by
  induction unvisited, c using ancestors.induct with
  | case1 unvisited c missing =>
      rw [ancestors_of_none missing, List.getLast?_singleton] at isLast
      obtain rfl := Option.some.inj isLast
      cases missing.symm.trans found
  | case2 unvisited c parent isParent ih =>
      rw [ancestors_of_some isParent] at isLast ⊢
      rw [List.getLast?_cons_cons] at isLast
      rw [List.map_cons, List.mem_cons]
      by_cases same : next.name = parent.name
      · exact Or.inl same
      · exact Or.inr (ih isLast (parent?_otherThan_eq_some_iff.2 ⟨found, same⟩))

end Component

/-! ### Chains of prototypes -/

namespace Catalog

/-- The component that the prototype of a component names, if there is one. -/
def prototype? (catalog : Catalog) (c : Component) : Option Component :=
  c.prototype.bind fun name => (catalog.idOf? name).bind catalog.component?

theorem prototype?_eq_parent? (catalog : Catalog) (c : Component) :
    catalog.prototype? c = c.parent? catalog.components := by
  unfold prototype? Component.parent?
  congr 1
  funext name
  rw [idOf?_eq_findIdx?]
  exact List.find?_eq_bind_findIdx?_getElem?.symm

/-- A component and all that it inherits from, nearest first. -/
structure IsPrototypeChain (catalog : Catalog) (c : Component) (chain : List Component) :
    Prop where
  /-- The chain begins with the component, -/
  head?_eq : chain.head? = some c
  /-- it goes on with the component that the prototype of the last one names, -/
  linked : chain.IsChain fun a b => catalog.prototype? a = some b
  /-- no internal name comes up twice, -/
  names_nodup : (chain.map Component.name).Nodup
  /-- and it ends only where no component is named, or one of a name that came up. -/
  complete : ∀ last next, chain.getLast? = some last → catalog.prototype? last = some next →
    next.name ∈ chain.map Component.name

theorem isPrototypeChain_lineage (catalog : Catalog) (c : Component) :
    catalog.IsPrototypeChain c (catalog.lineage c) where
  head?_eq := rfl
  linked := by
    refine (Component.isChain_ancestors _ c).imp ?_
    intro a b next
    rw [prototype?_eq_parent?]
    exact (Component.parent?_otherThan_eq_some_iff.1 next).1
  names_nodup := by
    rw [lineage, List.map_cons, List.nodup_cons]
    refine ⟨?_, Component.nodup_names_ancestors _ c⟩
    intro again
    obtain ⟨a, inherited, named⟩ := List.mem_map.1 again
    exact Component.name_ne_of_mem_ancestors inherited named
  complete := by
    intro last next isLast found
    rw [prototype?_eq_parent?] at found
    rw [lineage, List.map_cons, List.mem_cons]
    by_cases same : next.name = c.name
    · exact Or.inl same
    · exact Or.inr (Component.name_mem_of_parent?_getLast isLast
        (Component.parent?_otherThan_eq_some_iff.2 ⟨found, same⟩))

namespace IsPrototypeChain

variable {catalog : Catalog} {c : Component} {chain other : List Component}

/-- Of two lists that begin alike and go on by prototypes, one continues the other. -/
theorem isPrefix_or_isPrefix (linked : chain.IsChain fun a b => catalog.prototype? a = some b)
    (linked' : other.IsChain fun a b => catalog.prototype? a = some b)
    (heads : chain.head? = other.head?) : chain <+: other ∨ other <+: chain := by
  induction chain generalizing other with
  | nil => exact Or.inl List.nil_prefix
  | cons a chain ih =>
      cases other with
      | nil => exact Or.inr List.nil_prefix
      | cons b other =>
          obtain rfl : a = b := Option.some.inj heads
          rw [List.cons_prefix_cons, List.cons_prefix_cons]
          cases chain with
          | nil => exact Or.inl ⟨rfl, List.nil_prefix⟩
          | cons x chain =>
              cases other with
              | nil => exact Or.inr ⟨rfl, List.nil_prefix⟩
              | cons y other =>
                  rw [List.isChain_cons_cons] at linked linked'
                  have same : x = y := Option.some.inj (linked.1.symm.trans linked'.1)
                  have tails := ih linked.2 linked'.2 (congrArg some same)
                  exact tails.imp (⟨rfl, ·⟩) (⟨rfl, ·⟩)

/-- A chain cannot be continued: the next component would have a name that came up. -/
theorem eq_of_isPrefix (isChain : catalog.IsPrototypeChain c chain)
    (isChain' : catalog.IsPrototypeChain c other) (front : chain <+: other) : chain = other := by
  obtain ⟨rest, rfl⟩ := front
  cases rest with
  | nil => exact (List.append_nil chain).symm
  | cons next rest =>
      have nonempty : chain ≠ [] := by
        rintro rfl
        cases isChain.head?_eq
      have isLast := List.getLast?_eq_some_getLast nonempty
      have found := (List.isChain_append.1 isChain'.linked).2.2 _ isLast next rfl
      have again := isChain.complete _ _ isLast found
      have distinct := isChain'.names_nodup
      rw [List.map_append, List.map_cons, List.nodup_append] at distinct
      exact absurd rfl (distinct.2.2 _ again _ List.mem_cons_self)

/-- There is only one chain of prototypes. -/
theorem unique (isChain : catalog.IsPrototypeChain c chain)
    (isChain' : catalog.IsPrototypeChain c other) : chain = other := by
  have heads : chain.head? = other.head? := isChain.head?_eq.trans isChain'.head?_eq.symm
  rcases isPrefix_or_isPrefix isChain.linked isChain'.linked heads with front | front
  · exact isChain.eq_of_isPrefix isChain' front
  · exact (isChain'.eq_of_isPrefix isChain front).symm

end IsPrototypeChain

/-- The way up the prototypes ends after at most as many components as there are. -/
theorem length_lineage_le {catalog : Catalog} {c : Component} (member : c ∈ catalog.components) :
    (catalog.lineage c).length ≤ catalog.components.length := by
  have nodup : (catalog.lineage c).Nodup :=
    (catalog.isPrototypeChain_lineage c).names_nodup.of_map
  have known : catalog.lineage c ⊆ catalog.components := by
    intro a inLineage
    rcases List.mem_cons.1 inLineage with rfl | inherited
    · exact member
    · exact (List.mem_filter.1 (Component.mem_of_mem_ancestors inherited)).1
  exact (List.subperm_of_subset nodup known).length_le

end Catalog

/-! ### New candidates -/

namespace Candidate

/-- The candidates whose entries are new where they stand: neither in the list that they are
added to, nor among the candidates in front of them. -/
def newAmong (items more : List Candidate) : List Candidate :=
  (more.zipIdx.filter fun x => x.1.entry ∉ (items ++ more.take x.2).map entry).map Prod.fst

theorem newAmong_concat (items more : List Candidate) (c : Candidate) :
    newAmong items (more ++ [c]) =
      newAmong items more ++ if c.entry ∈ (items ++ more).map entry then [] else [c] := by
  unfold newAmong
  rw [List.zipIdx_append, List.filter_append, List.map_append]
  congr 1
  · -- what stands in front of the last candidate does not have it in front
    congr 1
    refine List.filter_congr ?_
    intro x member
    have inside : x.2 < more.length := List.snd_lt_of_mem_zipIdx member
    rw [List.take_append_of_le_length (Nat.le_of_lt inside)]
  · rw [List.zipIdx_singleton, Nat.zero_add, List.filter_singleton, List.take_left]
    by_cases known : c.entry ∈ (items ++ more).map entry
    · rw [if_pos known, decide_eq_false (not_not.2 known)]
      rfl
    · rw [if_neg known, decide_eq_true known]
      rfl

theorem pushNew_eq (items : List Candidate) (c : Candidate) :
    pushNew items c = items ++ if c.entry ∈ items.map entry then [] else [c] := by
  have test : items.any (sameEntry · c) = true ↔ c.entry ∈ items.map entry := by
    simp only [List.any_eq_true, sameEntry_eq_true_iff, List.mem_map]
  unfold pushNew
  by_cases known : c.entry ∈ items.map entry
  · rw [if_pos (test.2 known), if_pos known, List.append_nil]
  · rw [if_neg (mt test.1 known), if_neg known]

theorem mem_map_entry_pushNew {items : List Candidate} {c : Candidate}
    {e : String × CandidateKind} :
    e ∈ (pushNew items c).map entry ↔ e ∈ items.map entry ∨ e = c.entry := by
  rw [pushNew_eq, List.map_append, List.mem_append]
  split
  next known =>
    refine ⟨fun old => Or.inl (old.resolve_right List.not_mem_nil), ?_⟩
    rintro (old | rfl)
    · exact Or.inl old
    · exact Or.inl known
  next => rw [List.map_singleton, List.mem_singleton]

/-- Adding candidates one by one loses no entry and brings no other. -/
theorem mem_map_entry_foldl_pushNew {items more : List Candidate} {e : String × CandidateKind} :
    e ∈ (more.foldl pushNew items).map entry ↔ e ∈ (items ++ more).map entry := by
  induction more generalizing items with
  | nil => rw [List.foldl_nil, List.append_nil]
  | cons c more ih =>
      rw [List.foldl_cons, ih, List.map_append, List.mem_append, mem_map_entry_pushNew,
        List.map_append, List.mem_append, List.map_cons, List.mem_cons, or_assoc]

/-- Adding candidates one by one adds those that are new.  The induction takes candidates from
the end, since whether one is new depends on those in front. -/
theorem foldl_pushNew_eq (items more : List Candidate) :
    more.foldl pushNew items = items ++ newAmong items more := by
  induction more using List.reverseRecOn with
  | nil => exact (List.append_nil items).symm
  | append_singleton more c ih =>
      rw [List.foldl_concat, pushNew_eq, newAmong_concat, ← List.append_assoc, ← ih]
      simp only [mem_map_entry_foldl_pushNew]

end Candidate

open Candidate

/-! ### The members of a component -/

/-- A component declares properties, methods, signals and values of enumerations, in this
order. -/
theorem Component.map_entry_ownMembers (c : Component) :
    c.ownMembers.map entry =
      c.properties.map (fun p => (p.name, CandidateKind.property)) ++
        c.methods.map (fun method => (method, CandidateKind.method)) ++
        c.signals.map (fun signal => (signalHandler signal, CandidateKind.signal)) ++
        (c.enums.flatMap Enumeration.values).map
          (fun value => (value, CandidateKind.enumMember)) := by
  unfold ownMembers enumCandidates
  simp only [List.map_append, List.map_map, List.map_flatMap]
  rfl

namespace Catalog

/-- **Members follow the prototypes.**  There is exactly one chain of prototypes from a
component, and it has at most as many components as the catalog, so the way up always ends.
What a component adds to a list of candidates are the own members along this chain, as far as
their entries are neither in the list nor in front of them. -/
theorem appendMembers_eq_newAmong (catalog : Catalog) {id : ComponentId} {c : Component}
    (listed : catalog.component? id = some c) (items : List Candidate) :
    ∃ chain, catalog.IsPrototypeChain c chain ∧
      (∀ other, catalog.IsPrototypeChain c other → other = chain) ∧
      chain.length ≤ catalog.components.length ∧
      (∀ a ∈ chain, a.ownMembers.map entry =
        a.properties.map (fun p => (p.name, CandidateKind.property)) ++
          a.methods.map (fun method => (method, CandidateKind.method)) ++
          a.signals.map (fun signal => (signalHandler signal, CandidateKind.signal)) ++
          (a.enums.flatMap Enumeration.values).map
            (fun value => (value, CandidateKind.enumMember))) ∧
      catalog.appendMembers items c =
        items ++ newAmong items (chain.flatMap Component.ownMembers) := by
  have isChain := catalog.isPrototypeChain_lineage c
  refine ⟨catalog.lineage c, isChain, ?_, ?_, ?_, foldl_pushNew_eq items _⟩
  · intro other isChain'
    exact isChain'.unique isChain
  · exact length_lineage_le (List.mem_of_getElem? listed)
  · intro a _
    exact a.map_entry_ownMembers

/-- Two components that name each other as prototypes, and a third one of the same internal
name as the first.  From the third the way leads to the second and ends there, since the name
of the first came up; members that are in the list already are not added again. -/
theorem appendMembers_eq_newAmong_cycle :
    let first : Component := ⟨"A", ⟨["M"], "A", "1"⟩, [], some "B", [], ["e"], [], []⟩
    let second : Component := ⟨"B", ⟨["M"], "B", "1"⟩, [], some "A", [], ["f", "g"], ["f"], []⟩
    let third : Component := ⟨"A", ⟨["M"], "C", "1"⟩, [], some "B", [], ["f"], [], []⟩
    let catalog := ofComponents [first, second, third]
    let items : List Candidate := [⟨"g", .method, none⟩]
    catalog.component? 2 = some third ∧ catalog.prototype? second = some first ∧
      catalog.IsPrototypeChain third [third, second] ∧
      catalog.appendMembers items third =
        items ++ [⟨"f", .method, some "C"⟩, ⟨"onF", .signal, some "B"⟩] := by
  intro first second third catalog items
  have listed : catalog.component? 2 = some third := by decide +kernel
  have lineage_eq : catalog.lineage third = [third, second] := by decide +kernel
  have isLineage := catalog.isPrototypeChain_lineage third
  rw [lineage_eq] at isLineage
  obtain ⟨chain, -, unique, -, -, members⟩ := catalog.appendMembers_eq_newAmong listed items
  rw [← unique _ isLineage] at members
  refine ⟨listed, by decide +kernel, isLineage, members.trans ?_⟩
  decide +kernel

end Catalog

end QmlAssist
