import QmlAssist.Proofs.Analysis.Consistent
import QmlAssist.Reference.Hover

/-!
# Which names are types

A name of a type is used in three places: the types of blocks are such names, completion offers
them, and hovering one shows links to its pages.  Each place goes through the components in
scope in its own way.  This module shows that they agree, and says what a hover shows.

## Main Definitions

* `Analysis.pagesOf` — the pages of all components in scope under a name.
* `Hover.listing` — the text that lists links.

## Main Statements

* `Analysis.Consistent.isTypeName_iff_candidate` — completion offers the names of types.
* `Analysis.isTypeName_iff_referenceUrls` — and they are the names with pages.
* `Hover.severalLinks_isPrefix_listing_iff` — when a text starts with the warning.
* `Analysis.hover?_eq_some_iff` — what is shown at a position, and when.
* `Analysis.hover_agrees_with_candidates` — all of this for the analysis of a text.

## Design Notes

The links are the first occurrences among the pages.  Two exports may have one page, since
URLs are in lower case, so nothing is said about which export a link stems from.  There is only
one list of first occurrences (`FirstOccurrences.unique`), so the links are determined.
-/

namespace QmlAssist

/-! ### The text of a hover -/

/-- Nothing in between leaves pieces joined. -/
theorem intercalate_empty (pieces : List String) : "".intercalate pieces = String.join pieces := by
  rw [← String.toList_inj, String.toList_intercalate, String.toList_join, String.toList_empty]
  induction pieces with
  | nil => rfl
  | cons piece rest ih =>
      cases rest with
      | nil => simp
      | cons next rest =>
          rw [List.map_cons, List.map_cons, List.intercalate_cons_cons, ← List.map_cons, ih,
            List.append_nil]
          rfl

namespace Hover

/-- The text that lists links: each between line feeds, after a warning if there are several. -/
def listing (links : List String) : String :=
  (if 2 ≤ links.length then severalLinks else "") ++
    String.join (links.map fun link => "\n" ++ link ++ "\n")

/-- Something is shown exactly if there are links, and then it is their list. -/
theorem markdown?_eq_some_iff {links : List String} {value : String} :
    markdown? links = some value ↔ links ≠ [] ∧ value = listing links := by
  match links with
  | [] => simp [markdown?]
  | [link] => simp [markdown?, listing, String.join, eq_comm]
  | first :: second :: rest =>
      have several : 2 ≤ (first :: second :: rest).length := by simp
      simp only [markdown?, intercalate_empty, listing, if_pos several, Option.some.injEq,
        ne_eq, reduceCtorEq, not_false_eq_true, true_and, eq_comm]

/-- A text of links starts with the warning exactly if there are several of them. -/
theorem severalLinks_isPrefix_listing_iff (links : List String) :
    severalLinks.toList <+: (listing links).toList ↔ 2 ≤ links.length := by
  rw [listing]
  split
  next several =>
    rw [String.toList_append]
    exact iff_of_true (List.prefix_append _ _) several
  next few =>
    -- the text of at most one link is empty or starts with a line feed
    refine iff_of_false ?_ few
    rintro ⟨rest, whole⟩
    have headed : severalLinks.toList.head? = some 'M' := by decide +kernel
    have start := congrArg List.head? whole
    rw [List.head?_append, headed, String.empty_append] at start
    match links with
    | [] => cases start
    | [link] => simp [String.join] at start
    | first :: second :: rest => simp at few

end Hover

namespace Analysis

/-! ### Three ways to look up a name -/

/-- A name is the name of a type exactly if completion offers it as one. -/
theorem Consistent.isTypeName_iff_candidate {a : Analysis} (consistent : a.Consistent)
    {name : String} :
    a.isTypeName name = true ↔ ∃ c ∈ a.candidates, c.kind = .componentType ∧ c.label = name := by
  obtain ⟨names, first, typeCandidates⟩ := consistent.exists_typeCandidates
  rw [isTypeName_eq_true_iff, ← first.mem_iff]
  constructor
  · intro listed
    have offered :
        ⟨name, .componentType, none⟩ ∈ a.candidates.filter (·.kind = .componentType) := by
      rw [typeCandidates]
      exact List.mem_map_of_mem listed
    exact ⟨_, List.mem_of_mem_filter offered, rfl, rfl⟩
  · rintro ⟨c, offered, kind, rfl⟩
    have isType : c ∈ a.candidates.filter (·.kind = .componentType) :=
      List.mem_filter.2 ⟨offered, decide_eq_true kind⟩
    rw [typeCandidates] at isType
    obtain ⟨name, listed, rfl⟩ := List.mem_map.1 isType
    exact listed

/-- The pages of all components in scope under a name, as often as they come up.  Each
component has those of its primary export and of the further ones into other modules. -/
def pagesOf (a : Analysis) (name : String) : List String :=
  ((a.components.filterMap a.catalog.component?).filter (·.typeName = name)).flatMap fun c =>
    (c.primary :: c.further.filter (·.moduleName ≠ c.primary.moduleName)).map Export.url

/-- The links are the pages, each once. -/
theorem firstOccurrences_referenceUrls (a : Analysis) (name : String) :
    FirstOccurrences (a.pagesOf name) (a.referenceUrls name) := by
  have components : a.components.filterMap a.catalog.component? = a.scope.map Prod.snd := by
    rw [scope, List.map_filterMap]
    refine List.filterMap_congr fun id _ => ?_
    rw [Option.map_map]
    exact (congrFun Option.map_id _).symm
  have links : a.referenceUrls name = (a.pagesOf name).eraseDups := by
    rw [pagesOf, components, List.filter_map, List.flatMap_map]
    rfl
  rw [links]
  exact firstOccurrences_eraseDups _

/-- A name is the name of a type exactly if it has pages. -/
theorem isTypeName_iff_referenceUrls {a : Analysis} {name : String} :
    a.isTypeName name = true ↔ a.referenceUrls name ≠ [] := by
  rw [isTypeName, List.any_eq_true]
  constructor
  · rintro ⟨x, inScope, sameName⟩
    have named : x ∈ a.named name := List.mem_filter.2 ⟨inScope, sameName⟩
    have linked : x.2.primary.url ∈ a.referenceUrls name := by
      rw [referenceUrls, List.mem_eraseDups, List.mem_flatMap]
      exact ⟨x, named, List.mem_map_of_mem List.mem_cons_self⟩
    exact List.ne_nil_of_mem linked
  · intro nonempty
    obtain ⟨url, linked⟩ := List.exists_mem_of_ne_nil _ nonempty
    rw [referenceUrls, List.mem_eraseDups, List.mem_flatMap] at linked
    obtain ⟨x, named, -⟩ := linked
    exact ⟨x, List.mem_filter.1 named⟩

/-! ### What a hover shows -/

/-- There is a hover over the names of types and over nothing else.  Its range is that of the
word, and its text lists the first occurrences of the pages. -/
theorem hover?_eq_some_iff {a : Analysis} {p : Position} {h : Hover} :
    a.hover? p = some h ↔
      ∃ word, ((Document.ofText a.text).cursor p).wordAt? = some (word, h.range) ∧
        a.isTypeName word = true ∧
        ∃ links, FirstOccurrences (a.pagesOf word) links ∧ h.value = Hover.listing links := by
  unfold hover?
  simp only [Option.bind_eq_bind, Option.bind_eq_some_iff, Option.some.injEq,
    Hover.markdown?_eq_some_iff, ← isTypeName_iff_referenceUrls]
  constructor
  · rintro ⟨⟨word, range⟩, here, value, ⟨isType, rfl⟩, rfl⟩
    exact ⟨word, here, isType, _, a.firstOccurrences_referenceUrls word, rfl⟩
  · rintro ⟨word, here, isType, links, first, value⟩
    -- the links are determined, so these are the ones that are shown
    obtain rfl := first.unique (a.firstOccurrences_referenceUrls word)
    exact ⟨(word, h.range), here, h.value, ⟨isType, value⟩, rfl⟩

/-- **Hovers, types and completion agree.**  In the analysis of a text, the names of types are
those that completion offers as types and those that have links.  At a position there is a
hover exactly if it touches a word that is the name of a type.  The hover is over this word.
Its links are the first occurrences of the pages of the name, so no two are equal, and they
come after the warning exactly if there are two or more. -/
theorem hover_agrees_with_candidates (catalog : Catalog) (text : String) :
    let a := ofText catalog text
    (∀ word,
      (a.isTypeName word = true ↔
        ∃ c ∈ a.candidates, c.kind = .componentType ∧ c.label = word) ∧
      (a.isTypeName word = true ↔ a.referenceUrls word ≠ [])) ∧
    ∀ p,
      ((∃ h, a.hover? p = some h) ↔ ∃ word range,
        ((Document.ofText text).cursor p).wordAt? = some (word, range) ∧
          a.isTypeName word = true) ∧
      ∀ h, a.hover? p = some h → ∃ word links,
        ((Document.ofText text).cursor p).wordAt? = some (word, h.range) ∧
          FirstOccurrences (a.pagesOf word) links ∧ links.Nodup ∧
          h.value = Hover.listing links ∧
          (Hover.severalLinks.toList <+: h.value.toList ↔ 2 ≤ links.length) := by
  intro a
  have consistent : a.Consistent := consistent_ofText catalog text
  refine ⟨fun word => ⟨consistent.isTypeName_iff_candidate, isTypeName_iff_referenceUrls⟩, ?_⟩
  intro p
  constructor
  · constructor
    · rintro ⟨h, shown⟩
      obtain ⟨word, here, isType, -⟩ := hover?_eq_some_iff.1 shown
      exact ⟨word, h.range, here, isType⟩
    · rintro ⟨word, range, here, isType⟩
      exact ⟨⟨_, range⟩, hover?_eq_some_iff.2
        ⟨word, here, isType, _, a.firstOccurrences_referenceUrls word, rfl⟩⟩
  · intro h shown
    obtain ⟨word, here, -, links, first, value⟩ := hover?_eq_some_iff.1 shown
    refine ⟨word, links, here, first, first.nodup, value, ?_⟩
    rw [value]
    exact Hover.severalLinks_isPrefix_listing_iff links

end Analysis

end QmlAssist
