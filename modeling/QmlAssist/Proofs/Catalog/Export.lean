import Mathlib.Data.List.Basic
import QmlAssist.Catalog.Export
import QmlAssist.Proofs.Text.Pieces

/-!
# Exports and their written form

An export has one written form, and every text that is one, up to blanks around it, denotes the
export.  The slash behind the path and the space behind the component can be found since neither
spells a name, whatever the version holds.

## Main Statements

* `Export.parse?_eq_some_iff` — reading accepts exactly the written forms.
* `Export.WellFormed.trim_eq_render_iff` — trimming finds a written form between blanks.
* `Export.WellFormed.render_inj` — a written form belongs to one export only.
* `Export.parse?_eq_some_iff_written` — reading and writing are inverse to each other.
-/

namespace QmlAssist

theorem IsName.not_mem {name : List Char} (spelled : IsName name) {c : Char}
    (other : isNameChar c = false) : c ∉ name := by
  intro member
  rw [List.all_eq_true.1 spelled.2 c member] at other
  cases other

namespace Export

/-! ### Written forms -/

theorem toList_moduleName (e : Export) :
    e.moduleName.toList = ['.'].intercalate (e.segments.map String.toList) :=
  String.toList_intercalate

theorem toList_render (e : Export) :
    e.render.toList =
      e.moduleName.toList ++ '/' :: (e.component.toList ++ ' ' :: e.version.toList) := by
  simp [render]

namespace WellFormed

variable {e : Export}

/-- The segments can be read off the dotted path. -/
theorem pieces_moduleName (wellFormed : e.WellFormed) :
    Text.pieces '.' e.moduleName.toList = e.segments.map String.toList := by
  rw [toList_moduleName]
  refine Text.pieces_intercalate (by simpa using wellFormed.1) ?_
  rw [List.forall_mem_map]
  exact fun segment member => (wellFormed.2.1 segment member).not_mem (by decide)

/-- The dotted path is spelled with name characters and dots. -/
theorem isNameChar_of_mem_moduleName (wellFormed : e.WellFormed) {c : Char}
    (member : c ∈ e.moduleName.toList) : c = '.' ∨ isNameChar c = true := by
  rw [toList_moduleName] at member
  refine (Text.mem_intercalate member).imp_right ?_
  rintro ⟨segment, among, inside⟩
  obtain ⟨name, listed, rfl⟩ := List.mem_map.1 among
  exact List.all_eq_true.1 (wellFormed.2.1 name listed).2 c inside

theorem slash_not_mem_moduleName (wellFormed : e.WellFormed) : '/' ∉ e.moduleName.toList := by
  intro member
  have spelled := wellFormed.isNameChar_of_mem_moduleName member
  revert spelled
  decide

/-- A written form begins and ends with characters that are not blank. -/
theorem isBlank_ends_render (wellFormed : e.WellFormed) :
    (∀ c ∈ e.render.toList.head?, isBlank c = false) ∧
      ∀ c ∈ e.render.toList.getLast?, isBlank c = false := by
  constructor
  · intro c first
    rw [toList_render, List.head?_append, List.head?_cons, Option.mem_def, Option.or_eq_some_iff]
      at first
    rcases first with inPath | ⟨-, slash⟩
    · rcases wellFormed.isNameChar_of_mem_moduleName (List.mem_of_mem_head? inPath) with rfl | name
      · decide
      · exact isBlank_of_isNameChar name
    · obtain rfl := Option.some.inj slash
      decide
  · intro c last
    obtain ⟨-, -, -, nonempty, visible⟩ := wellFormed
    have whole : e.render.toList =
        e.moduleName.toList ++ '/' :: (e.component.toList ++ [' ']) ++ e.version.toList := by
      simp [toList_render]
    rw [whole, List.getLast?_append_of_ne_nil _ nonempty] at last
    simpa using List.all_eq_true.1 visible c (List.mem_of_mem_getLast? last)

/-- Trimming finds a written form between blanks. -/
theorem trim_eq_render_iff (wellFormed : e.WellFormed) {cs : List Char} :
    Text.trim cs = e.render.toList ↔ ∃ before after, cs = before ++ (e.render.toList ++ after) ∧
      (∀ c ∈ before, isBlank c = true) ∧ ∀ c ∈ after, isBlank c = true := by
  rw [Text.trim_eq_iff]
  constructor
  · rintro ⟨before, after, whole, blank, blank', -⟩
    exact ⟨before, after, whole, blank, blank'⟩
  · rintro ⟨before, after, whole, blank, blank'⟩
    exact ⟨before, after, whole, blank, blank', wellFormed.isBlank_ends_render⟩

end WellFormed

/-! ### Reading -/

/-- Reading accepts exactly the written forms. -/
theorem parse?_eq_some_iff {text : String} {e : Export} :
    parse? text = some e ↔ e.WellFormed ∧ Text.trim text.toList = e.render.toList := by
  simp only [parse?, Option.bind_eq_bind, Option.bind_eq_some_iff, Prod.exists,
    Text.cut_eq_some_iff, Option.ite_none_right_eq_some, Option.some.injEq]
  constructor
  · rintro ⟨path, rest, ⟨slashless, whole⟩, component, version, ⟨spaceless, rfl⟩,
      ⟨names, name, versionText⟩, rfl⟩
    refine ⟨⟨by simpa using Text.pieces_ne_nil '.' path, ?_, ?_, ?_⟩, ?_⟩
    · rw [List.forall_mem_map]
      intro segment member
      rw [String.toList_ofList]
      exact names segment member
    · rwa [String.toList_ofList]
    · rwa [String.toList_ofList]
    · rw [whole, toList_render, toList_moduleName, List.map_map]
      simp [Function.comp_def, Text.intercalate_pieces]
  · rintro ⟨wellFormed, whole⟩
    have segments := wellFormed.pieces_moduleName
    have slashless := wellFormed.slash_not_mem_moduleName
    obtain ⟨-, names, name, versionText⟩ := wellFormed
    -- the version may hold slashes and the path may not, so the first slash is the right one
    refine ⟨_, _, ⟨slashless, by rw [whole, toList_render]⟩, _, _,
      ⟨name.not_mem (by decide), rfl⟩, ⟨?_, name, versionText⟩, ?_⟩
    · rw [segments, List.forall_mem_map]
      exact names
    · simp [segments, Function.comp_def]

/-- A written form between blanks denotes the export that it is written for. -/
theorem WellFormed.parse?_render {e : Export} (wellFormed : e.WellFormed) {before after : List Char}
    (blank : ∀ c ∈ before, isBlank c = true) (blank' : ∀ c ∈ after, isBlank c = true) :
    parse? (String.ofList (before ++ (e.render.toList ++ after))) = some e := by
  rw [parse?_eq_some_iff, String.toList_ofList]
  exact ⟨wellFormed, wellFormed.trim_eq_render_iff.2 ⟨before, after, rfl, blank, blank'⟩⟩

/-- A written form belongs to one export only. -/
theorem WellFormed.render_inj {e e' : Export} (wellFormed : e.WellFormed)
    (wellFormed' : e'.WellFormed) (same : e.render = e'.render) : e = e' := by
  have parsed := wellFormed.parse?_render (List.forall_mem_nil _) (List.forall_mem_nil _)
  rw [same, wellFormed'.parse?_render (List.forall_mem_nil _) (List.forall_mem_nil _)] at parsed
  exact (Option.some.inj parsed).symm

/-- **Reading and writing exports.**  A text denotes an export exactly if it is the written form
of one between blanks: a dotted path of names, a slash, a name, a space, and a version without
blanks.  There is only one such export, its segments are what the dots of its path separate, and
every export that can be written is read back, whatever blanks are put around it. -/
theorem parse?_eq_some_iff_written :
    (∀ text e, parse? text = some e ↔ e.WellFormed ∧ Text.trim text.toList = e.render.toList) ∧
    (∀ (text : String) (e : Export), e.WellFormed → (Text.trim text.toList = e.render.toList ↔
      ∃ before after, text.toList = before ++ (e.render.toList ++ after) ∧
        (∀ c ∈ before, isBlank c = true) ∧ ∀ c ∈ after, isBlank c = true)) ∧
    (∀ e e' : Export, e.WellFormed → e'.WellFormed → e.render = e'.render → e = e') ∧
    (∀ e : Export, e.WellFormed →
      Text.pieces '.' e.moduleName.toList = e.segments.map String.toList) ∧
    ∀ (e : Export) before after, e.WellFormed → (∀ c ∈ before, isBlank c = true) →
      (∀ c ∈ after, isBlank c = true) →
        parse? (String.ofList (before ++ (e.render.toList ++ after))) = some e := by
  refine ⟨fun _ _ => parse?_eq_some_iff, fun _ _ wellFormed => wellFormed.trim_eq_render_iff,
    fun _ _ wellFormed => wellFormed.render_inj, fun _ wellFormed => wellFormed.pieces_moduleName,
    ?_⟩
  intro e before after wellFormed blank blank'
  exact wellFormed.parse?_render blank blank'

/-- A version may hold slashes and dots. -/
theorem parse?_eq_some_iff_written_slashes :
    let e : Export := ⟨["A", "B"], "C", "1/x.y"⟩
    e.WellFormed ∧ parse? "\t A.B/C 1/x.y \n" = some e := by
  intro e
  have names : ∀ segment ∈ e.segments, IsName segment.toList := by decide +kernel
  have wellFormed : e.WellFormed := ⟨by decide, names, by decide +kernel, by decide +kernel⟩
  have trimmed : Text.trim "\t A.B/C 1/x.y \n".toList = e.render.toList := by decide +kernel
  exact ⟨wellFormed, (parse?_eq_some_iff_written.1 _ e).2 ⟨wellFormed, trimmed⟩⟩

end Export

end QmlAssist
