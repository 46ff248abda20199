import Mathlib.Data.List.Basic
import Mathlib.Data.List.Forall2
import QmlAssist.Proofs.Catalog.Export
import QmlAssist.Proofs.Catalog.Version
import QmlAssist.Proofs.Text.LetterCase
import QmlAssist.Reference.Hover

/-!
# Pages of exports

The address of a page names the site, the segments of the module path and the component, all in
lower case and with hyphens between them.  Names hold no hyphens and get none in lower case, so
all of this can be read off the address, and two exports share a page only if they differ in
letter case and version alone.

## Main Definitions

* `Export.pageParts` — what the address of a page names.
* `Export.AlikeUpToCase` — two exports have one site and agree up to letter case.
* `Analysis.documented` — the exports whose pages are shown for a name.

## Main Statements

* `Site.eq_of_base_append` — an address tells its site.
* `Export.WellFormed.url_eq_iff` — when two exports have the same page.
* `Export.url_eq_iff_alikeUpToCase` — and so when they have the same link in a hover.
-/

namespace QmlAssist

namespace Site

/-- The character in the address of a site by which it differs from the addresses of the others. -/
def mark : Site → Char
  | appStudio => 'a'
  | arcGisRuntime => 'l'
  | qt => 'q'

theorem getElem?_base_append (site : Site) (rest : List Char) :
    (site.base.toList ++ rest)[12]? = some site.mark := by
  have marked : site.base.toList[12]? = some site.mark := by
    cases site <;> decide +kernel
  have inside : 12 < site.base.toList.length := (List.getElem?_eq_some_iff.1 marked).1
  rw [List.getElem?_append_left inside, marked]

/-- An address tells its site. -/
theorem eq_of_base_append {site site' : Site} {rest rest' : List Char}
    (same : site.base.toList ++ rest = site'.base.toList ++ rest') : site = site' := by
  have marks : site.mark = site'.mark := by
    rw [← Option.some.injEq, ← site.getElem?_base_append rest, same, getElem?_base_append]
  revert marks
  cases site <;> cases site' <;> decide

end Site

namespace Export

/-! ### Addresses -/

/-- What the address of an export's page names behind the site: the segments of the module path
and the component, in lower case. -/
def pageParts (e : Export) : List String :=
  e.segments.map Text.lowercase ++ [Text.lowercase e.component]

/-- Two exports have one site, and their paths and components agree up to letter case. -/
structure AlikeUpToCase (e e' : Export) : Prop where
  site : e.site = e'.site
  /-- There are as many segments, and each agrees with the one in its place. -/
  segments : List.Forall₂ (fun s s' => Text.lowercase s = Text.lowercase s') e.segments e'.segments
  component : Text.lowercase e.component = Text.lowercase e'.component

theorem alikeUpToCase_iff {e e' : Export} :
    e.AlikeUpToCase e' ↔ e.site = e'.site ∧ e.pageParts = e'.pageParts := by
  have segments : e.segments.map Text.lowercase = e'.segments.map Text.lowercase ↔
      List.Forall₂ (fun s s' => Text.lowercase s = Text.lowercase s') e.segments e'.segments := by
    rw [← List.forall₂_eq_eq_eq, List.forall₂_map_left_iff, List.forall₂_map_right_iff]
  rw [pageParts, pageParts, List.append_singleton_inj, segments]
  constructor
  · rintro ⟨site, paths, components⟩
    exact ⟨site, paths, components⟩
  · rintro ⟨site, paths, components⟩
    exact ⟨site, paths, components⟩

theorem toList_lowercase (text : String) :
    (Text.lowercase text).toList = Text.lowercaseAfter [] text.toList :=
  String.toList_ofList

namespace WellFormed

variable {e e' : Export}

/-- An address is that of the site, with the parts joined by hyphens behind it. -/
theorem toList_url (wellFormed : e.WellFormed) :
    e.url.toList = e.site.base.toList ++
      (['-'].intercalate (e.pageParts.map String.toList) ++ e.site.ending.toList) := by
  have path : (Text.lowercase ("-".intercalate e.segments)).toList =
      ['-'].intercalate ((e.segments.map Text.lowercase).map String.toList) := by
    rw [toList_lowercase, String.toList_intercalate]
    show Text.lowercaseAfter [] (['-'].intercalate (e.segments.map String.toList)) = _
    have lowered : Text.lowercaseAfter [] ∘ String.toList = String.toList ∘ Text.lowercase :=
      funext fun segment => (toList_lowercase segment).symm
    rw [Text.lowercaseAfter_intercalate, List.map_map, List.map_map, lowered]
  have nonempty : (e.segments.map Text.lowercase).map String.toList ≠ [] := by
    simpa using wellFormed.1
  rw [pageParts, List.map_append, List.map_singleton, Text.intercalate_concat nonempty, ← path]
  simp [url]

/-- Names get no hyphens in lower case. -/
theorem hyphen_not_mem_pageParts (wellFormed : e.WellFormed) :
    ∀ part ∈ e.pageParts.map String.toList, '-' ∉ part := by
  have absent : ∀ name : String, IsName name.toList → '-' ∉ (Text.lowercase name).toList := by
    intro name spelled
    rw [toList_lowercase]
    exact Text.hyphen_not_mem_lowercaseAfter (spelled.not_mem (by decide)) []
  obtain ⟨-, names, name, -⟩ := wellFormed
  rw [pageParts, List.forall_mem_map, List.forall_mem_append, List.forall_mem_map,
    List.forall_mem_singleton]
  exact ⟨fun segment member => absent segment (names segment member), absent _ name⟩

/-- Two exports have the same page exactly if they agree up to letter case. -/
theorem url_eq_iff (wellFormed : e.WellFormed) (wellFormed' : e'.WellFormed) :
    e.url = e'.url ↔ e.AlikeUpToCase e' := by
  rw [alikeUpToCase_iff, ← String.toList_inj, wellFormed.toList_url, wellFormed'.toList_url]
  constructor
  · intro same
    have site := Site.eq_of_base_append same
    rw [site, List.append_cancel_left_eq, List.append_cancel_right_eq] at same
    -- there is always a component, so neither list of parts is empty
    have nonempty : ∀ e : Export, e.pageParts.map String.toList ≠ [] := by simp [pageParts]
    have parts := Text.intercalate_inj (nonempty e) (nonempty e')
      wellFormed.hyphen_not_mem_pageParts wellFormed'.hyphen_not_mem_pageParts same
    exact ⟨site, List.map_injective_iff.2 (fun _ _ => String.toList_inj.1) parts⟩
  · rintro ⟨site, parts⟩
    rw [site, parts]

end WellFormed

end Export

/-! ### Links -/

/-- The exports in a loaded catalog are written in its descriptors. -/
theorem Catalog.exists_parse?_of_load {descriptors : List Descriptor} {catalog : Catalog}
    (loaded : load descriptors = .ok catalog) {c : Component} (entered : c ∈ catalog.components)
    {e : Export} (exported : e ∈ c.exports) : ∃ text, Export.parse? text = some e := by
  obtain ⟨-, rfl⟩ := load_eq_ok_iff.1 loaded
  rw [components_ofComponents] at entered
  have written : e ∈ (descriptors.flatMap Descriptor.exportTexts).filterMap Export.parse? := by
    rw [← flatMap_exports_flatMap_components]
    exact List.mem_flatMap.2 ⟨c, entered, exported⟩
  obtain ⟨text, -, parsed⟩ := List.mem_filterMap.1 written
  exact ⟨text, parsed⟩

namespace Analysis

/-- The exports with pages of all components in scope under a name. -/
def documented (a : Analysis) (name : String) : List Export :=
  (a.named name).flatMap fun x => x.2.documented

theorem referenceUrls_eq (a : Analysis) (name : String) :
    a.referenceUrls name = ((a.documented name).map Export.url).eraseDups := by
  rw [referenceUrls, documented, List.map_flatMap]

theorem exists_parse?_of_mem_documented {descriptors : List Descriptor} {a : Analysis}
    (loaded : Catalog.load descriptors = .ok a.catalog) {name : String} {e : Export}
    (shown : e ∈ a.documented name) : ∃ text, Export.parse? text = some e := by
  obtain ⟨⟨id, c⟩, named, listed⟩ := List.mem_flatMap.1 shown
  obtain ⟨number, -, found⟩ := List.mem_filterMap.1 (List.mem_of_mem_filter named)
  obtain ⟨component, entered, same⟩ := Option.map_eq_some_iff.1 found
  obtain rfl : component = c := congrArg Prod.snd same
  have exported : e ∈ component.exports := by
    -- the primary export is documented, and of the others those into other modules
    rcases List.mem_cons.1 listed with primary | further
    · exact List.mem_cons.2 (Or.inl primary)
    · exact List.mem_cons_of_mem _ (List.mem_of_mem_filter further)
  exact Catalog.exists_parse?_of_load loaded (List.mem_of_getElem? entered) exported

end Analysis

/-- **One page for exports that agree up to letter case.**  Two exports that can be read have the
same page exactly if they have one site, as many segments, and segments and components that are
equal in lower case.  So among the links that are shown for a name in a document, each export
has one, and two exports have the same one exactly if they agree in this way. -/
theorem Export.url_eq_iff_alikeUpToCase :
    (∀ text text' e e', parse? text = some e → parse? text' = some e' →
      (e.url = e'.url ↔ e.AlikeUpToCase e')) ∧
    ∀ descriptors (a : Analysis), Catalog.load descriptors = .ok a.catalog → ∀ name,
      ∀ e ∈ a.documented name, ∀ e' ∈ a.documented name,
        e.url ∈ a.referenceUrls name ∧
        ((a.referenceUrls name).idxOf e.url = (a.referenceUrls name).idxOf e'.url ↔
          e.AlikeUpToCase e') := by
  have alike : ∀ text text' e e', parse? text = some e → parse? text' = some e' →
      (e.url = e'.url ↔ e.AlikeUpToCase e') := by
    intro text text' e e' parsed parsed'
    exact (parse?_eq_some_iff.1 parsed).1.url_eq_iff (parse?_eq_some_iff.1 parsed').1
  refine ⟨alike, ?_⟩
  intro descriptors a loaded name e shown e' shown'
  have linked : e.url ∈ a.referenceUrls name := by
    rw [Analysis.referenceUrls_eq, List.mem_eraseDups]
    exact List.mem_map_of_mem shown
  obtain ⟨text, parsed⟩ := Analysis.exists_parse?_of_mem_documented loaded shown
  obtain ⟨text', parsed'⟩ := Analysis.exists_parse?_of_mem_documented loaded shown'
  exact ⟨linked, (List.idxOf_inj linked).trans (alike text text' e e' parsed parsed')⟩

/-- In front of a hyphen a capital sigma ends a word, as it does at the end of a segment. -/
theorem Export.url_eq_iff_alikeUpToCase_sigma :
    let e : Export := ⟨["ΟΔΟΣ", "Map"], "Σ", "1"⟩
    let e' : Export := ⟨["οδος", "MAP"], "σ", "2.0"⟩
    parse? "ΟΔΟΣ.Map/Σ 1" = some e ∧ parse? "οδος.MAP/σ 2.0" = some e' ∧
      e.AlikeUpToCase e' ∧ e.url = e'.url := by
  intro e e'
  have parsed : parse? "ΟΔΟΣ.Map/Σ 1" = some e := by decide +kernel
  have parsed' : parse? "οδος.MAP/σ 2.0" = some e' := by decide +kernel
  have alike : e.AlikeUpToCase e' := alikeUpToCase_iff.2 (by decide +kernel)
  exact ⟨parsed, parsed', alike, (url_eq_iff_alikeUpToCase.1 _ _ e e' parsed parsed').2 alike⟩

end QmlAssist
