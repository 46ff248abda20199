import QmlAssist.Text.Digits

/-!
# JSON values

Descriptors and editor messages are JSON.  An object holds every key once and in
ascending order, whatever order and repetition its text had; a number keeps the
text that it was written with.

## Main Definitions

* `Json` — the values.
* `Json.ofFields` — the object with the given fields, where the last field of a
  key counts.
* `Json.field?` and the `as…?` functions — parts of a value.
-/

namespace QmlAssist

/-- JSON values. -/
inductive Json where
  | null
  | bool (value : Bool)
  | number (literal : String)
  | string (value : String)
  | array (items : List Json)
  | object (fields : List (String × Json))
deriving Inhabited, Repr

namespace Json

/-- Put a field into an ascending list of fields, in place of a field with the
same key. -/
def insertField (key : String) (value : Json) :
    List (String × Json) → List (String × Json)
  | [] => [(key, value)]
  | (k, v) :: rest =>
      if key < k then (key, value) :: (k, v) :: rest
      else if key = k then (key, value) :: rest
      else (k, v) :: insertField key value rest

/-- The object with the given fields. -/
def ofFields (fields : List (String × Json)) : Json :=
  .object (fields.foldl (fun done (key, value) => insertField key value done) [])

/-- The number that stands for a natural number. -/
def ofNat (n : Nat) : Json :=
  .number (toString n)

/-- The number that stands for an integer. -/
def ofInt (n : Int) : Json :=
  .number (toString n)

/-- The value, or `null` in its absence. -/
def ofOption {α : Type} (f : α → Json) : Option α → Json
  | none => .null
  | some a => f a

/-- The value of a key of an object. -/
def field? (key : String) : Json → Option Json
  | .object fields => fields.lookup key
  | _ => none

/-- The text of a string. -/
def asString? : Json → Option String
  | .string value => some value
  | _ => none

/-- The items of an array. -/
def asArray? : Json → Option (List Json)
  | .array items => some items
  | _ => none

/-- The fields of an object. -/
def asObject? : Json → Option (List (String × Json))
  | .object fields => some fields
  | _ => none

/-- The value of a number that is written with digits only. -/
def asNat? : Json → Option Nat
  | .number literal => Text.natural? literal.toList
  | _ => none

end Json

end QmlAssist
