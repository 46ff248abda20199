import QmlAssist.Json.Printer
import QmlAssist.Protocol.Address
import QmlAssist.Text.CharClass

/-!
# Schemas of message parameters

A schema says which JSON values fit some purpose.  A value that does not fit has a
first fault, and the fault is told to whoever sent the value.

Records are objects, in which unknown keys are ignored.  Some records are made up of
others, whose fields stand beside their own; all other records may also be written as
the array of their fields in order.

## Main Definitions

* `Schema` — the shapes of values.
* `Schema.fault?` — the first fault of a value.
* `Schema.Fault.message` — what is said about a fault.
-/

namespace QmlAssist

/-- The shapes of JSON values. -/
inductive Schema where
  | anything
  | boolean
  | text
  /-- The address of a document. -/
  | address
  /-- An integer of 32 bits, one of them for the sign. -/
  | signed
  /-- A natural number of 32 bits. -/
  | unsigned
  /-- Any number. -/
  | real
  /-- One of some words. -/
  | keyword (words : List String)
  /-- A value that may be absent or `null`. -/
  | optional (schema : Schema)
  /-- A value that may be absent. -/
  | defaulted (schema : Schema)
  | list (schema : Schema)
  /-- An object with any keys. -/
  | table (schema : Schema)
  /-- A value of one of several shapes. -/
  | oneOf (name : String) (schemas : List Schema)
  /-- An object with the given fields; the fields of the parts stand beside them. -/
  | record (name : String) (fields : List (String × Schema)) (parts : List Schema)

namespace Schema

/-- Why a value does not fit. -/
inductive Fault where
  | wrongKind (found : Json) (expected : String)
  | wrongValue (found : Json) (expected : String)
  | missing (key : String)
  /-- An array ends before all fields of a record. -/
  | tooShort (length : Nat) (name : String) (size : Nat)
  /-- An array goes on after the fields of a record; inside of a part their number is
  known. -/
  | tooLong (length : Nat) (size : Option Nat)
  | noneFits (name : String)
  | unknownWord (found : String) (words : List String)

/-! ### Messages about faults -/

/-- A character inside of a quoted text.  What cannot be seen on its own is written as
a code. -/
def quotedChar (c : Char) : String :=
  if c = '"' then "\\\""
  else if c = '\\' then "\\\\"
  else if c = '\t' then "\\t"
  else if c = '\n' then "\\n"
  else if c = '\r' then "\\r"
  else if c = '\x00' then "\\0"
  else if c != ' ' && (c.toNat < 0x20 || (0x7F ≤ c.toNat && c.toNat < 0xA0) || isBlank c ||
      Unicode.isMark c) then
    "\\u\x7b" ++ String.ofList (Nat.toDigits 16 c.toNat) ++ "\x7d"
  else c.toString

/-- A quoted text. -/
def quotedText (text : String) : String :=
  "\"" ++ String.join (text.toList.map quotedChar) ++ "\""

/-- What kind of value was found. -/
def describe : Json → String
  | .null => "null"
  | .bool value => "boolean `" ++ toString value ++ "`"
  | .number literal =>
      (if (Json.integer? literal).isSome then "integer `" else "floating point `") ++
        Json.numberText literal ++ "`"
  | .string value => "string " ++ quotedText value
  | .array _ => "sequence"
  | .object _ => "map"

/-- A number of things. -/
def counted (n : Nat) (thing : String) : String :=
  toString n ++ " " ++ thing ++ if n = 1 then "" else "s"

/-- What is said about a fault. -/
def Fault.message : Fault → String
  | .wrongKind found expected => "invalid type: " ++ describe found ++ ", expected " ++ expected
  | .wrongValue found expected => "invalid value: " ++ describe found ++ ", expected " ++ expected
  | .missing key => "missing field `" ++ key ++ "`"
  | .tooShort length name size =>
      "invalid length " ++ toString length ++ ", expected struct " ++ name ++ " with " ++
        counted size "element"
  | .tooLong length none =>
      "invalid length " ++ toString length ++ ", expected fewer elements in array"
  | .tooLong length (some size) =>
      "invalid length " ++ toString length ++ ", expected " ++ counted size "element" ++
        " in sequence"
  | .noneFits name => "data did not match any variant of untagged enum " ++ name
  | .unknownWord found words =>
      "unknown variant `" ++ found ++ "`, expected one of " ++
        ", ".intercalate (words.map fun word => "`" ++ word ++ "`")

/-! ### Faults -/

/-- The fault of a value that has to be an integer between bounds. -/
def integerFault? (low high : Int) (name : String) (json : Json) : Option Fault :=
  match json with
  | .number literal =>
      match Json.integer? literal with
      | some n => if low ≤ n ∧ n ≤ high then none else some (.wrongValue json name)
      | none => some (.wrongKind json name)
  | _ => some (.wrongKind json name)

/-- The fault of a value that has to be an address. -/
def addressFault? (json : Json) : Option Fault :=
  match json with
  | .string value =>
      if (Address.normalize? value).isSome then none
      else if (Address.scheme? (Address.clean value.toList)).isSome then
        some (.wrongValue json "empty host")
      else some (.wrongValue json "relative URL without a base")
  | _ => some (.wrongKind json "a string representing an URL")

/-- Whether a field may be absent. -/
def mayBeAbsent : Schema → Bool
  | .optional _ => true
  | .defaulted _ => true
  | _ => false

/-- The first field of a record that is absent without leave. -/
def missing? (fields : List (String × Schema)) (entries : List (String × Json)) : Option Fault :=
  (fields.find? fun (key, schema) => (entries.lookup key).isNone && !schema.mayBeAbsent).map
    fun (key, _) => .missing key

mutual

/-- The first fault of a value.  The entries of an object are looked at in the order of
their keys, own fields before those of parts; `inPart` marks values inside of parts. -/
def fault? (inPart : Bool) : Schema → Json → Option Fault
  | .anything, _ => none
  | .boolean, json =>
      match json with
      | .bool _ => none
      | _ => some (.wrongKind json "a boolean")
  | .text, json =>
      match json with
      | .string _ => none
      | _ => some (.wrongKind json "a string")
  | .address, json => addressFault? json
  | .signed, json => integerFault? (-0x80000000) 0x7FFFFFFF "i32" json
  | .unsigned, json => integerFault? 0 0xFFFFFFFF "u32" json
  | .real, json =>
      match json with
      | .number _ => none
      | _ => some (.wrongKind json "f32")
  | .keyword words, json =>
      match json with
      | .string value => if words.contains value then none else some (.unknownWord value words)
      | _ => some (.wrongKind json "string or map")
  | .optional schema, json =>
      match json with
      | .null => none
      | _ => fault? inPart schema json
  | .defaulted schema, json => fault? inPart schema json
  | .list schema, json =>
      match json with
      | .array items => items.findSome? fun item => fault? inPart schema item
      | _ => some (.wrongKind json "a sequence")
  | .table schema, json =>
      match json with
      | .object entries => entries.findSome? fun entry => fault? inPart schema entry.2
      | _ => some (.wrongKind json "a map")
  | .oneOf name schemas, json =>
      if someFits schemas json then none else some (.noneFits name)
  | .record name fields parts, json =>
      match json with
      | .object entries =>
          (entries.findSome? fun entry => fieldFault? inPart fields entry.1 entry.2).or
            ((missing? fields entries).or
              (partsFault? parts
                (.object (entries.filter fun entry => (fields.lookup entry.1).isNone))))
      | .array items =>
          if parts.isEmpty then itemsFault? inPart name fields.length items.length fields items
          else some (.wrongKind json ("struct " ++ name))
      | _ => some (.wrongKind json ("struct " ++ name))

/-- The fault of an entry, if its key is that of a field. -/
def fieldFault? (inPart : Bool) : List (String × Schema) → String → Json → Option Fault
  | [], _, _ => none
  | (name, schema) :: rest, key, json =>
      if name = key then fault? inPart schema json else fieldFault? inPart rest key json

/-- The first fault of an array that holds the fields of a record. -/
def itemsFault? (inPart : Bool) (name : String) (size length : Nat) :
    List (String × Schema) → List Json → Option Fault
  | [], [] => none
  | [], _ :: _ => some (.tooLong length (if inPart then some size else none))
  | _ :: _, [] => some (.tooShort length name size)
  | (_, schema) :: fields, item :: items =>
      (fault? inPart schema item).or (itemsFault? inPart name size length fields items)

/-- The first fault of the parts of a record. -/
def partsFault? : List Schema → Json → Option Fault
  | [], _ => none
  | part :: rest, json => (fault? true part json).or (partsFault? rest json)

/-- Whether a value fits one of several schemas. -/
def someFits : List Schema → Json → Bool
  | [], _ => false
  | schema :: rest, json => (fault? true schema json).isNone || someFits rest json

end

/-- Whether a value fits. -/
def fits (schema : Schema) (json : Json) : Bool :=
  (schema.fault? false json).isNone

end Schema

end QmlAssist
