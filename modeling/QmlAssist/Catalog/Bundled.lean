import QmlAssist.Catalog.Descriptor
import QmlAssist.Json.Printer

/-!
# Bundled descriptors

The descriptors of the core and the visual types of Qt come with the library, so
that documents can be analysed without any descriptor file.  They are kept as
records and written out as descriptor texts in a fixed layout: one field or
member a line, short lists in a row.

## Main Definitions

* `Bundled.Entry` — one record, with `Bundled.Entry.lines` for its layout.
* `Descriptor.bundled` — the bundled descriptors.
-/

namespace QmlAssist

namespace Bundled

/-- A record of a bundled descriptor.  Types that markup cannot name have no
exports. -/
structure Entry where
  name : String
  exports : List String := []
  prototype : Option String := none
  /-- Names and types of the properties. -/
  properties : List (String × String) := []
  signals : List String := []
  methods : List String := []
  /-- The enumerations, with the numbers of their values. -/
  enums : List (String × List (String × Nat)) := []

/-! ### Layout -/

/-- Lines moved one step to the right. -/
def indented (lines : List String) : List String :=
  lines.map ("    " ++ ·)

/-- Blocks of lines below each other, with a comma after each but the last. -/
def commaSeparated : List (List String) → List String
  | [] => []
  | [block] => block
  | block :: rest => block.dropLast ++ block.getLast?.toList.map (· ++ ",") ++ commaSeparated rest

/-- A field of an object, with the value on the same line. -/
def inlineField (key value : String) : String :=
  Json.quote key ++ ": " ++ value

/-- An object on one line. -/
def inlineObject (fields : List String) : String :=
  "\x7b " ++ ", ".intercalate fields ++ " \x7d"

/-- An object with its fields below each other. -/
def object (fields : List (List String)) : List String :=
  ["\x7b"] ++ indented (commaSeparated fields) ++ ["\x7d"]

/-- A field that holds an array with its items below each other. -/
def arrayField (key : String) (items : List (List String)) : List String :=
  [inlineField key "["] ++ indented (commaSeparated items) ++ ["]"]

/-- A field that holds an array, left out if there are no items. -/
def arrayField? (key : String) (items : List (List String)) : List (List String) :=
  if items.isEmpty then [] else [arrayField key items]

/-- The greatest number of enumeration values on one line. -/
def valuesPerLine : Nat := 5

/-- The values of an enumeration, in a row, or in two if there are many. -/
def valuesField (values : List (String × Nat)) : List String :=
  let texts := values.map fun (name, n) => inlineField name (toString n)
  if texts.length ≤ valuesPerLine then [inlineField "values" (inlineObject texts)]
  else
    [inlineField "values" "\x7b"] ++
      indented (commaSeparated
        [[", ".intercalate (texts.take valuesPerLine)],
          [", ".intercalate (texts.drop valuesPerLine)]]) ++
      ["\x7d"]

/-- A member that has nothing but a name. -/
def namedMember (name : String) : List String :=
  [inlineObject [inlineField "name" (Json.quote name)]]

namespace Entry

/-- The lines of a record. -/
def lines (e : Entry) : List String :=
  object <|
    [[inlineField "name" (Json.quote e.name)]] ++
    (if e.exports.isEmpty then []
      else [[inlineField "exports" ("[" ++ ", ".intercalate (e.exports.map Json.quote) ++ "]")]]) ++
    (e.prototype.toList.map fun p => [inlineField "prototype" (Json.quote p)]) ++
    arrayField? "properties" (e.properties.map fun (name, type) =>
      [inlineObject [inlineField "name" (Json.quote name), inlineField "type" (Json.quote type)]]) ++
    arrayField? "signals" (e.signals.map namedMember) ++
    arrayField? "methods" (e.methods.map namedMember) ++
    arrayField? "enums" (e.enums.map fun (name, values) =>
      object [[inlineField "name" (Json.quote name)], valuesField values])

end Entry

/-- The text of a descriptor with the given records. -/
def content (entries : List Entry) : String :=
  "".intercalate ((object [arrayField "components" (entries.map Entry.lines)]).map (· ++ "\n"))

/-! ### Records -/

/-- The types of `QtQml`. -/
def coreTypes : List Entry :=
  [ { name := "QObject"
      exports := ["QtQml/QtObject 2.0"]
      properties :=
        [("objectName", "string")]
      signals := ["objectNameChanged"]
      methods := ["toString", "destroy"] },
    { name := "QQmlComponent"
      exports := ["QtQml/Component 2.0"]
      prototype := some "QObject"
      properties :=
        [("progress", "double"), ("status", "Status"), ("url", "QUrl")]
      signals := ["statusChanged", "progressChanged"]
      methods := ["createObject", "errorString", "incubateObject"]
      enums :=
        [("Status",
          [("Null", 0), ("Ready", 1), ("Loading", 2), ("Error", 3)])] },
    { name := "QQmlTimer"
      exports := ["QtQml/Timer 2.0", "QtQuick/Timer 2.0"]
      prototype := some "QObject"
      properties :=
        [("interval", "int"), ("running", "bool"), ("repeat", "bool"),
         ("triggeredOnStart", "bool")]
      signals := ["triggered"]
      methods := ["start", "stop", "restart"] },
    { name := "QQmlConnections"
      exports := ["QtQml/Connections 2.0"]
      prototype := some "QObject"
      properties :=
        [("target", "QObject"), ("enabled", "bool"), ("ignoreUnknownSignals", "bool")] },
    { name := "QQmlEngine"
      prototype := some "QObject" }]

/-- The types of `QtQuick`. -/
def visualTypes : List Entry :=
  [ { name := "QQuickItem"
      exports := ["QtQuick/Item 2.0"]
      prototype := some "QObject"
      properties :=
        [("parent", "QQuickItem"), ("x", "double"), ("y", "double"), ("z", "double"),
         ("width", "double"), ("height", "double"), ("opacity", "double"),
         ("enabled", "bool"), ("visible", "bool"), ("anchors", "QQuickAnchors"),
         ("states", "QQuickState"), ("state", "string"), ("focus", "bool")]
      signals := ["childrenRectChanged", "stateChanged"]
      methods := ["forceActiveFocus", "mapToItem", "mapFromItem", "childAt"]
      enums :=
        [("TransformOrigin",
          [("TopLeft", 0), ("Top", 1), ("TopRight", 2), ("Left", 3), ("Center", 4),
           ("Right", 5), ("BottomLeft", 6), ("Bottom", 7), ("BottomRight", 8)])] },
    { name := "QQuickRectangle"
      exports := ["QtQuick/Rectangle 2.0"]
      prototype := some "QQuickItem"
      properties :=
        [("color", "QColor"), ("gradient", "QQuickGradient"), ("border", "QQuickPen"),
         ("radius", "double")] },
    { name := "QQuickText"
      exports := ["QtQuick/Text 2.0", "QtQuick/Text 2.6"]
      prototype := some "QQuickItem"
      properties :=
        [("text", "string"), ("font", "QFont"), ("color", "QColor"),
         ("horizontalAlignment", "HAlignment"), ("wrapMode", "WrapMode"),
         ("elide", "TextElideMode")]
      signals := ["linkActivated", "textChanged"]
      methods := ["doLayout", "forceLayout"]
      enums :=
        [("HAlignment",
          [("AlignLeft", 1), ("AlignRight", 2), ("AlignHCenter", 4), ("AlignJustify", 8)])] },
    { name := "QQuickMouseArea"
      exports := ["QtQuick/MouseArea 2.0"]
      prototype := some "QQuickItem"
      properties :=
        [("mouseX", "double"), ("mouseY", "double"), ("containsMouse", "bool"),
         ("pressed", "bool"), ("hoverEnabled", "bool"),
         ("acceptedButtons", "Qt::MouseButtons")]
      signals := ["clicked", "doubleClicked", "pressAndHold", "released"] },
    { name := "QQuickState"
      exports := ["QtQuick/State 2.0"]
      prototype := some "QObject"
      properties :=
        [("name", "string"), ("when", "bool"), ("extend", "string")] },
    { name := "QQuickPropertyChanges"
      exports := ["QtQuick/PropertyChanges 2.0"]
      prototype := some "QObject"
      properties :=
        [("target", "QObject"), ("restoreEntryValues", "bool"), ("explicit", "bool")] },
    { name := "QQuickAnchors"
      prototype := some "QObject"
      properties :=
        [("fill", "QQuickItem"), ("centerIn", "QQuickItem"), ("margins", "double")] }]

end Bundled

/-- The bundled descriptors, in ascending order of their names. -/
def Descriptor.bundled : List Descriptor :=
  [⟨"QtQml.json", Bundled.content Bundled.coreTypes⟩,
   ⟨"QtQuick.2.json", Bundled.content Bundled.visualTypes⟩]

end QmlAssist
