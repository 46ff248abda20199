import QmlAssist.Catalog.Component
import QmlAssist.Json.Basic

/-!
# Component records

A descriptor holds one record per component.  A record is an object; its members
may each be an object or the array of the member's fields in order.  Fields that
are not known here are ignored, and a field of the wrong kind spoils the whole
record.
-/

namespace QmlAssist

/-- The fields of a component record. -/
structure Record where
  name : String
  exports : List String
  prototype : Option String
  properties : List Property
  methods : List String
  signals : List String
  enums : List Enumeration
deriving DecidableEq, Repr

namespace Record

/-- A field that has to be there. -/
def required? {α : Type} (decode? : Json → Option α) (key : String) (json : Json) :
    Option α :=
  (json.field? key).bind decode?

/-- A field that has a default. -/
def optional? {α : Type} (decode? : Json → Option α) (default : α) (key : String)
    (json : Json) : Option α :=
  match json.field? key with
  | none => some default
  | some value => decode? value

/-- A text, or `null` for its absence. -/
def nullableText? : Json → Option (Option String)
  | .null => some none
  | .string value => some (some value)
  | _ => none

/-- An array of like items. -/
def listOf? {α : Type} (decode? : Json → Option α) (json : Json) : Option (List α) :=
  json.asArray?.bind (·.mapM decode?)

/-- The keys of an object, which are the names of an enumeration's values. -/
def keys? (json : Json) : Option (List String) :=
  json.asObject?.map (·.map Prod.fst)

/-- A property. -/
def property? : Json → Option Property
  | .array [name] => do some ⟨← name.asString?, none⟩
  | .array [name, type] => do some ⟨← name.asString?, ← nullableText? type⟩
  | .object fields => do
      some ⟨← required? Json.asString? "name" (.object fields),
        ← optional? nullableText? none "type" (.object fields)⟩
  | _ => none

/-- A method or signal, of which only the name is kept. -/
def name? : Json → Option String
  | .array [name] => name.asString?
  | .object fields => required? Json.asString? "name" (.object fields)
  | _ => none

/-- An enumeration. -/
def enumeration? : Json → Option Enumeration
  | .array [name] => do some ⟨← name.asString?, []⟩
  | .array [name, values] => do some ⟨← name.asString?, ← keys? values⟩
  | .object fields => do
      some ⟨← required? Json.asString? "name" (.object fields),
        ← optional? keys? [] "values" (.object fields)⟩
  | _ => none

/-- The record that a JSON value describes. -/
def decode? (json : Json) : Option Record := do
  some
    { name := ← required? Json.asString? "name" json
      exports := ← required? (listOf? Json.asString?) "exports" json
      prototype := ← optional? nullableText? none "prototype" json
      properties := ← optional? (listOf? property?) [] "properties" json
      methods := ← optional? (listOf? name?) [] "methods" json
      signals := ← optional? (listOf? name?) [] "signals" json
      enums := ← optional? (listOf? enumeration?) [] "enums" json }

/-- The component of a record.  Malformed exports are left out, and a record
without any other export describes no component. -/
def component? (record : Record) : Option Component :=
  match record.exports.filterMap Export.parse? with
  | [] => none
  | primary :: further =>
      some
        { name := record.name
          primary := primary
          further := further
          prototype := record.prototype.filter (· ≠ "")
          properties := record.properties
          methods := record.methods
          signals := record.signals
          enums := record.enums }

end Record

/-- The component that a JSON value describes, if it describes one at all. -/
def Component.ofJson? (json : Json) : Option Component :=
  (Record.decode? json).bind Record.component?

end QmlAssist
