import QmlAssist.Json.Basic
import QmlAssist.Workspace.Basic

/-!
# Answers of the language server protocol

How the answers of the workspace are written in the JSON of the protocol.  Absent
parts are left out.
-/

namespace QmlAssist

namespace Answer

/-- The name under which the server presents itself. -/
def serverName : String := "qmlantom"

/-- The version under which the server presents itself. -/
def serverVersion : String := "0.3.0"

/-- The characters that make an editor ask for a completion. -/
def triggerCharacters : List String := [".", ","]

/-- What the server is able to do.  Documents are always sent whole. -/
def capabilities : Json :=
  .ofFields
    [("capabilities", .ofFields
      [("completionProvider", .ofFields
        [("resolveProvider", .bool false),
          ("triggerCharacters", .array (triggerCharacters.map .string))]),
        ("hoverProvider", .bool true),
        ("textDocumentSync", .ofNat 1)]),
      ("serverInfo", .ofFields
        [("name", .string serverName), ("version", .string serverVersion)])]

/-- A position. -/
def position (p : Position) : Json :=
  .ofFields [("line", .ofNat p.line), ("character", .ofNat p.character)]

/-- The stretch between two positions. -/
def range (r : Range) : Json :=
  .ofFields [("start", position r.start), ("end", position r.stop)]

/-- The number by which an editor knows a kind of candidate. -/
def kindNumber : CandidateKind → Nat
  | .componentType => 7
  | .property => 10
  | .method => 2
  | .signal => 23
  | .enumMember => 20
  | .identifier => 6
  | .keyword => 14
  | .builtinType => 22
  | .moduleName => 9

/-- A candidate. -/
def candidate (c : Candidate) : Json :=
  .ofFields <|
    [("label", .string c.label), ("kind", .ofNat (kindNumber c.kind))] ++
      c.detail.toList.map fun detail => ("detail", .string detail)

/-- The candidates of a completion. -/
def completion (candidates : List Candidate) : Json :=
  .array (candidates.map candidate)

/-- What is shown at a position, or `null` if nothing is. -/
def hover : Option Hover → Json :=
  .ofOption fun h =>
    .ofFields
      [("contents", .ofFields [("kind", .string "markdown"), ("value", .string h.value)]),
        ("range", range h.range)]

/-- The parameters of a message for the editor's log. -/
def logMessage (message : String) : Json :=
  .ofFields [("type", .ofNat 3), ("message", .string message)]

end Answer

end QmlAssist
