import QmlAssist.Proofs.Catalog.Load

/-!
# What a load leaves out

A load fails at the first descriptor that is no JSON or has no array of records.  Nothing
else makes it fail: a record that describes no component, and an export that is not well
formed, count as if they had not been written at all.

## Main Definitions

* `Descriptor.Fault` — what can be wrong with a descriptor, with the error for it.
* `Record.isIdle`, `Record.prune`, `Record.pruneAll` — the records without those that
  describe nothing, and without malformed exports.
* `Descriptor.Pruned` — a descriptor from which these have been deleted.

## Main Statements

* `Descriptor.records_eq_error_iff` — the records of a descriptor can be read unless it has
  a fault.
* `Record.decode?_prune` — deleting exports from the JSON value of a record deletes them from
  the record.
* `Catalog.load_fails_or_leaves_out` — when a load fails, with which error, and what a load
  that succeeds has left out.

## Design Notes

Deleting is done on JSON values, not on components: the numbers of components, the order of
modules and the primary exports are only given once the records have been entered.  A value
without malformed exports decodes as before, or still does not, so that it makes no difference
whether exports or idle records are deleted first.
-/

namespace QmlAssist

/-! ### Edits of JSON values -/

namespace Json

/-- Change the value of a key of an object. -/
def modifyField (key : String) (f : Json → Json) : Json → Json
  | .object fields => .object (fields.map fun (k, v) => (k, if k = key then f v else v))
  | json => json

/-- Change the items of an array. -/
def modifyItems (f : List Json → List Json) : Json → Json
  | .array items => .array (f items)
  | json => json

theorem lookup_map_modified (key : String) (f : Json → Json) (other : String)
    (fields : List (String × Json)) :
    (fields.map fun (k, v) => (k, if k = key then f v else v)).lookup other =
      (fields.lookup other).map fun v => if other = key then f v else v := by
  induction fields with
  | nil => rfl
  | cons field rest ih =>
      obtain ⟨k, v⟩ := field
      by_cases here : other = k
      · simp [here]
      · have skipped : (other == k) = false := beq_eq_false_iff_ne.2 here
        simpa only [List.map_cons, List.lookup_cons, skipped] using ih

theorem field?_modifyField (key : String) (f : Json → Json) (other : String) (json : Json) :
    (json.modifyField key f).field? other =
      (json.field? other).map fun v => if other = key then f v else v := by
  cases json with
  | object fields => exact lookup_map_modified key f other fields
  | null | bool | number | string | array => rfl

/-- The changed field. -/
theorem field?_modifyField_self (key : String) (f : Json → Json) (json : Json) :
    (json.modifyField key f).field? key = (json.field? key).map f := by
  simp [field?_modifyField]

/-- All other fields stay as they are. -/
theorem field?_modifyField_of_ne {key other : String} (different : other ≠ key)
    (f : Json → Json) (json : Json) :
    (json.modifyField key f).field? other = json.field? other := by
  simp [field?_modifyField, different]

theorem asArray?_modifyItems (f : List Json → List Json) (json : Json) :
    (json.modifyItems f).asArray? = json.asArray?.map f := by
  cases json <;> rfl

end Json

/-! ### Records without what counts for nothing -/

namespace Record

/-- Whether a text is a well-formed export. -/
def isExportText (text : String) : Bool :=
  (Export.parse? text).isSome

/-- Whether an item among the exports of a record is to be kept: all but malformed
exports. -/
def keepsExport : Json → Bool
  | .string text => isExportText text
  | _ => true

/-- A record without its malformed exports, as a JSON value. -/
def prune (json : Json) : Json :=
  json.modifyField "exports" (Json.modifyItems (List.filter keepsExport))

/-- Whether a JSON value describes no component: it has no exports, or it is no record, or
none of the exports is well formed. -/
def isIdle (json : Json) : Bool :=
  (json.field? "exports").isNone || (decode? json).isNone ||
    (decode? json).any fun record => record.exports.all fun text => !isExportText text

/-- Records without the idle ones, and without malformed exports. -/
def pruneAll (records : List Json) : List Json :=
  (records.filter fun json => !isIdle json).map prune

/-- Deleting malformed exports among JSON values deletes them among the texts. -/
theorem mapM_asString?_filter (items : List Json) :
    (items.filter keepsExport).mapM Json.asString? =
      (items.mapM Json.asString?).map (List.filter isExportText) := by
  induction items with
  | nil => rfl
  | cons item rest ih =>
      cases item with
      | string text =>
          by_cases formed : keepsExport (.string text) = true
          · rw [List.filter_cons_of_pos formed, List.mapM_cons, List.mapM_cons, ih]
            rw [keepsExport] at formed
            cases rest.mapM Json.asString? <;> simp [Json.asString?, formed]
          · rw [List.filter_cons_of_neg formed, List.mapM_cons, ih]
            rw [keepsExport] at formed
            cases rest.mapM Json.asString? <;> simp [Json.asString?, formed]
      -- What is no text is kept, and spoils the array on both sides.
      | null | bool | number | array | object => rfl

theorem required?_exports_prune (json : Json) :
    required? (listOf? Json.asString?) "exports" (prune json) =
      (required? (listOf? Json.asString?) "exports" json).map (List.filter isExportText) := by
  rw [required?, required?, prune, Json.field?_modifyField_self]
  cases json.field? "exports" with
  | none => rfl
  | some value =>
      simp only [Option.map_some, Option.bind_some, listOf?, Json.asArray?_modifyItems]
      cases value.asArray? with
      | none => rfl
      | some items => exact mapM_asString?_filter items

theorem required?_prune {key : String} (other : key ≠ "exports") {α : Type}
    (decode? : Json → Option α) (json : Json) :
    required? decode? key (prune json) = required? decode? key json := by
  rw [required?, required?, prune, Json.field?_modifyField_of_ne other]

theorem optional?_prune {key : String} (other : key ≠ "exports") {α : Type}
    (decode? : Json → Option α) (default : α) (json : Json) :
    optional? decode? default key (prune json) = optional? decode? default key json := by
  rw [optional?, optional?, prune, Json.field?_modifyField_of_ne other]

/-- Deleting malformed exports from the JSON value of a record deletes them from the
record. -/
theorem decode?_prune (json : Json) :
    decode? (prune json) =
      (decode? json).map fun record =>
        { record with exports := record.exports.filter isExportText } := by
  simp only [decode?, required?_exports_prune]
  rw [required?_prune (by decide), optional?_prune (by decide), optional?_prune (by decide),
    optional?_prune (by decide), optional?_prune (by decide), optional?_prune (by decide)]
  simp only [Option.bind_eq_bind, Option.map_bind, Option.bind_map, Function.comp_def,
    Option.map_some]

/-- The component of a record does not depend on its malformed exports. -/
theorem component?_filter_exports (record : Record) :
    component? { record with exports := record.exports.filter isExportText } =
      record.component? := by
  have formed : (record.exports.filter isExportText).filterMap Export.parse? =
      record.exports.filterMap Export.parse? := by
    rw [List.filterMap_filter]
    congr 1
    funext text
    cases parsed : Export.parse? text <;> simp [isExportText, parsed]
  simp only [component?, formed]

theorem component?_eq_none_iff {record : Record} :
    record.component? = none ↔ ∀ text ∈ record.exports, isExportText text = false := by
  constructor
  · intro missing text member
    have malformed := List.filterMap_eq_nil_iff.1 (parse?_of_component?_eq_none missing)
    rw [isExportText, malformed text member, Option.isSome_none]
  · intro malformed
    have noneParsed : record.exports.filterMap Export.parse? = [] := by
      rw [List.filterMap_eq_nil_iff]
      intro text member
      exact Option.isNone_iff_eq_none.1 (Option.isSome_eq_false_iff.1 (malformed text member))
    rw [component?, noneParsed]

theorem decode?_of_no_exports {json : Json} (absent : json.field? "exports" = none) :
    decode? json = none := by
  simp [decode?, required?, absent]

/-- The idle records are those that describe no component. -/
theorem isIdle_iff (json : Json) :
    isIdle json = true ↔ Component.ofJson? json = none := by
  rw [Component.ofJson?]
  cases decoded : decode? json with
  | none => simp [isIdle, decoded]
  | some record =>
      have present : (json.field? "exports").isNone = false := by
        rw [Option.isNone_eq_false_iff, Option.isSome_iff_ne_none]
        intro absent
        rw [decode?_of_no_exports absent] at decoded
        cases decoded
      simp [isIdle, decoded, present, component?_eq_none_iff]

/-- A value describes the same component without malformed exports. -/
theorem ofJson?_prune (json : Json) :
    Component.ofJson? (prune json) = Component.ofJson? json := by
  rw [Component.ofJson?, Component.ofJson?, decode?_prune, Option.bind_map]
  congr 1
  funext record
  exact component?_filter_exports record

/-- The same components are described without what counts for nothing. -/
theorem filterMap_ofJson?_pruneAll (records : List Json) :
    (pruneAll records).filterMap Component.ofJson? =
      records.filterMap Component.ofJson? := by
  have pruned : Component.ofJson? ∘ prune = Component.ofJson? := funext ofJson?_prune
  rw [pruneAll, List.filterMap_map, pruned, List.filterMap_filter]
  congr 1
  funext json
  cases idle : isIdle json with
  | false => rfl
  | true => exact ((isIdle_iff json).1 idle).symm

end Record

/-! ### Faults of descriptors -/

namespace Descriptor

/-- What is wrong with a descriptor that cannot be read, with the error for it. -/
inductive Fault (d : Descriptor) : CatalogError → Prop where
  /-- The text is no JSON. -/
  | notJson (unparsed : Json.parse? d.content = none) : Fault d (.notJson d.name)
  /-- The text is JSON, but has no array `components` at its top. -/
  | noComponents {json : Json} (parsed : Json.parse? d.content = some json)
      (missing : ∀ items, json.field? "components" ≠ some (.array items)) :
      Fault d (.noComponents d.name)

theorem records_eq_error_iff {d : Descriptor} {e : CatalogError} :
    d.records = .error e ↔ d.Fault e := by
  rw [records]
  constructor
  · intro failed
    split at failed
    next unparsed =>
        obtain rfl := Except.error.inj failed
        exact .notJson unparsed
    next json parsed =>
        split at failed
        next missing =>
            obtain rfl := Except.error.inj failed
            refine .noComponents parsed ?_
            intro items present
            simp [present, Json.asArray?] at missing
        next => cases failed
  · rintro (unparsed | @⟨json, parsed, missing⟩)
    · rw [unparsed]
    · have unread : (json.field? "components").bind Json.asArray? = none := by
        rw [Option.bind_eq_none_iff]
        intro value present
        cases value with
        | array items => exact absurd present (missing items)
        | null | bool | number | string | object => rfl
      simp only [parsed, unread]

/-- A descriptor can be read exactly if it has no fault. -/
theorem exists_records_iff {d : Descriptor} :
    (∃ records, d.records = .ok records) ↔ ∀ e, ¬ d.Fault e := by
  simp only [← records_eq_error_iff]
  cases d.records <;> simp

/-- A descriptor of the same name, in which idle records and malformed exports have been
deleted. -/
structure Pruned (d pruned : Descriptor) : Prop where
  name_eq : pruned.name = d.name
  parse?_eq : Json.parse? pruned.content =
    (Json.parse? d.content).map (Json.modifyField "components" (Json.modifyItems Record.pruneAll))

theorem Pruned.records_eq {d pruned : Descriptor} (deleted : d.Pruned pruned) :
    pruned.records = d.records.map Record.pruneAll := by
  rw [records, records, deleted.name_eq, deleted.parse?_eq]
  cases Json.parse? d.content with
  | none => rfl
  | some json =>
      have read : ((json.modifyField "components" (Json.modifyItems Record.pruneAll)).field?
          "components").bind Json.asArray? =
            ((json.field? "components").bind Json.asArray?).map Record.pruneAll := by
        rw [Json.field?_modifyField_self, Option.bind_map, Option.map_bind]
        congr 1
        funext value
        exact Json.asArray?_modifyItems Record.pruneAll value
      simp only [Option.map_some, read]
      cases (json.field? "components").bind Json.asArray? <;> rfl

end Descriptor

namespace Catalog

/-- Idle records and malformed exports are passed over. -/
theorem insertRecords_pruneAll (catalog : Catalog) (records : List Json) :
    catalog.insertRecords (Record.pruneAll records) = catalog.insertRecords records := by
  rw [insertRecords, insertRecords, Record.filterMap_ofJson?_pruneAll]

theorem insertDescriptor_pruned {d pruned : Descriptor} (deleted : d.Pruned pruned)
    (catalog : Catalog) : catalog.insertDescriptor pruned = catalog.insertDescriptor d := by
  rw [insertDescriptor, insertDescriptor, deleted.records_eq]
  cases d.records with
  | error e => rfl
  | ok records => exact congrArg Except.ok (insertRecords_pruneAll catalog records)

theorem foldlM_insertDescriptor_pruned {descriptors pruned : List Descriptor}
    (deleted : List.Forall₂ Descriptor.Pruned descriptors pruned) (start : Catalog) :
    pruned.foldlM insertDescriptor start = descriptors.foldlM insertDescriptor start := by
  induction deleted generalizing start with
  | nil => rfl
  | cons here _ ih =>
      rw [List.foldlM_cons, List.foldlM_cons, insertDescriptor_pruned here]
      congr 1
      funext catalog
      exact ih catalog

/-- Entering descriptors one by one is reading all of them first. -/
theorem foldlM_insertDescriptor_eq (descriptors : List Descriptor) (start : Catalog) :
    descriptors.foldlM insertDescriptor start =
      (descriptors.mapM Descriptor.records).map fun arrays =>
        arrays.foldl insertRecords start := by
  induction descriptors generalizing start with
  | nil => rfl
  | cons d rest ih =>
      rw [List.foldlM_cons, List.mapM_cons, insertDescriptor]
      cases d.records with
      | error e => rfl
      | ok records =>
          refine (ih _).trans ?_
          cases read : rest.mapM Descriptor.records with
          | error e => simp [bind, Except.bind, Except.map]
          | ok arrays => simp [bind, Except.bind, Except.map, pure, Except.pure]

/-- Reading fails at the first descriptor with a fault. -/
theorem mapM_records_eq_error_iff {descriptors : List Descriptor} {e : CatalogError} :
    descriptors.mapM Descriptor.records = .error e ↔
      ∃ front d back, descriptors = front ++ d :: back ∧
        (∀ good ∈ front, ∀ e', ¬ good.Fault e') ∧ d.Fault e := by
  simp only [mapM_eq_error_iff, Descriptor.exists_records_iff, Descriptor.records_eq_error_iff]

/-- **A load fails at the first bad descriptor, and leaves out bad records.**  It fails exactly
if some descriptor is no JSON or has no array of records, and the error is the one of the
first such descriptor.  If it succeeds, the catalog is the one that the records give without
those that describe no component and without malformed exports; and descriptors in which
these have been deleted load in the same way. -/
theorem load_fails_or_leaves_out (descriptors : List Descriptor) :
    ((∃ e, load descriptors = .error e) ↔ ∃ d ∈ descriptors, ∃ e, d.Fault e) ∧
    (∀ e, load descriptors = .error e ↔
      ∃ front d back, descriptors = front ++ d :: back ∧
        (∀ good ∈ front, ∀ e', ¬ good.Fault e') ∧ d.Fault e) ∧
    (∀ catalog, load descriptors = .ok catalog ↔
      ∃ arrays, descriptors.mapM Descriptor.records = .ok arrays ∧
        catalog = (arrays.map Record.pruneAll).foldl insertRecords empty) ∧
    ∀ pruned, List.Forall₂ Descriptor.Pruned descriptors pruned →
      load pruned = load descriptors := by
  have readFirst := foldlM_insertDescriptor_eq descriptors empty
  have firstFault : ∀ e, load descriptors = .error e ↔
      ∃ front d back, descriptors = front ++ d :: back ∧
        (∀ good ∈ front, ∀ e', ¬ good.Fault e') ∧ d.Fault e := by
    intro e
    rw [← mapM_records_eq_error_iff, load, readFirst]
    cases descriptors.mapM Descriptor.records <;> simp [Except.map]
  refine ⟨⟨?_, ?_⟩, firstFault, ?_, ?_⟩
  · rintro ⟨e, failed⟩
    obtain ⟨front, d, back, rfl, -, faulty⟩ := (firstFault e).1 failed
    exact ⟨d, by simp, e, faulty⟩
  · rintro ⟨d, member, e, faulty⟩
    cases loaded : load descriptors with
    | error e' => exact ⟨e', rfl⟩
    | ok catalog =>
        have readable := (load_eq_ok_iff.1 loaded).1 d member
        exact absurd faulty (Descriptor.exists_records_iff.1 readable e)
  · intro catalog
    simp only [List.foldl_map, insertRecords_pruneAll]
    rw [load, readFirst]
    cases descriptors.mapM Descriptor.records <;> simp [Except.map, eq_comm]
  · intro pruned deleted
    exact foldlM_insertDescriptor_pruned deleted empty

end Catalog

namespace Descriptor

/-- A descriptor with a record without exports and one with a malformed export. -/
def ofMixed : Descriptor where
  name := "mixed.json"
  content := "\x7b\"components\":[\x7b\"name\":\"H\"\x7d," ++
    "\x7b\"name\":\"A\",\"exports\":[\"M/\",\"M/A 2\"]\x7d]\x7d"

/-- What is left of it. -/
def ofTidied : Descriptor where
  name := "mixed.json"
  content := "\x7b\"components\":[\x7b\"name\":\"A\",\"exports\":[\"M/A 2\"]\x7d]\x7d"

/-- A descriptor with a record without a name and one without a well-formed export. -/
def ofIdle : Descriptor where
  name := "idle.json"
  content := "\x7b\"components\":[\x7b\"exports\":[\"M/N 1\"]\x7d," ++
    "\x7b\"name\":\"B\",\"exports\":[\"M/B\"]\x7d]\x7d"

/-- What is left of it. -/
def ofNone : Descriptor where
  name := "idle.json"
  content := "\x7b\"components\":[]\x7d"

/-- A descriptor with an object in place of the array of its records. -/
def ofObject : Descriptor where
  name := "object.json"
  content := "\x7b\"components\":\x7b\x7d\x7d"

/-- A descriptor that breaks off. -/
def ofTorn : Descriptor where
  name := "torn.json"
  content := "\x7b"

theorem parse?_ofMixed : Json.parse? ofMixed.content =
    some (.object [("components", .array
      [.object [("name", .string "H")],
        .object [("exports", .array [.string "M/", .string "M/A 2"]),
          ("name", .string "A")]])]) := by
  rfl

theorem parse?_ofIdle : Json.parse? ofIdle.content =
    some (.object [("components", .array
      [.object [("exports", .array [.string "M/N 1"])],
        .object [("exports", .array [.string "M/B"]), ("name", .string "B")]])]) := by
  rfl

theorem pruned_ofTidied : ofMixed.Pruned ofTidied where
  name_eq := rfl
  parse?_eq := by
    rw [parse?_ofMixed]
    rfl

theorem pruned_ofNone : ofIdle.Pruned ofNone where
  name_eq := rfl
  parse?_eq := by
    rw [parse?_ofIdle]
    rfl

end Descriptor

namespace Catalog

open Descriptor

/-- Only one of four records is entered, and only one of its two exports.  Of two descriptors
that cannot be read, the first gives the error. -/
theorem load_leaves_out_mixed :
    load [.ofTidied, .ofNone] = load [.ofMixed, .ofIdle] ∧
      (load [.ofMixed, .ofIdle]).map (·.modules) = .ok [⟨"M", "2", [0]⟩] ∧
      load [.ofMixed, .ofObject, .ofTorn] = .error (.noComponents "object.json") := by
  refine ⟨?_, by decide +kernel, ?_⟩
  · obtain ⟨-, -, -, same⟩ := load_fails_or_leaves_out [.ofMixed, .ofIdle]
    exact same _ (.cons pruned_ofTidied (.cons pruned_ofNone .nil))
  · obtain ⟨-, firstFault, -, -⟩ := load_fails_or_leaves_out [.ofMixed, .ofObject, .ofTorn]
    refine (firstFault _).2 ⟨[.ofMixed], .ofObject, [.ofTorn], rfl, ?_, ?_⟩
    · have readable : ∃ records, ofMixed.records = .ok records := by
        rw [records, parse?_ofMixed]
        exact ⟨_, rfl⟩
      simpa using exists_records_iff.1 readable
    · exact records_eq_error_iff.1 rfl

end Catalog

end QmlAssist
