import QmlAssist.Protocol.Schema

/-!
# Methods of the language server protocol

Every message names a method.  The protocol knows many more methods than this server
supports, and says of each what its parameters look like.

## Main Definitions

* `Method` — what a name stands for.
* `Method.ofName` — the method of a name.
* `RequestMethod.params` — the parameters of a request.
-/

namespace QmlAssist

/-- What an editor can ask for. -/
inductive RequestMethod where
  /-- What the server is able to do; the first request. -/
  | capabilities
  /-- To prepare for the end; the only request without parameters. -/
  | shutdown
  | completion
  | hover
  /-- A request that this server does not support. -/
  | unsupported (params : Schema)

/-- What an editor can tell. -/
inductive NotificationMethod where
  /-- The editor has taken note of the capabilities. -/
  | ready
  | opened
  | changed
  | closed
  /-- Something that this server takes no notice of. -/
  | unheeded

/-- What the name of a method stands for. -/
inductive Method where
  | request (method : RequestMethod)
  | notification (method : NotificationMethod)
  /-- To give up on a request; requests are answered before that. -/
  | cancel
  /-- To end. -/
  | exit
  /-- A name that the protocol does not know; an optional one may stay unanswered. -/
  | unknown (isOptional : Bool)

namespace Params

/-! ### Common parts of parameters -/

/-- A record whose fields are all its own. -/
def plain (name : String) (fields : List (String × Schema)) : Schema :=
  .record name fields []

/-- A place in a document. -/
def position : Schema :=
  plain "Position" [("line", .unsigned), ("character", .unsigned)]

/-- The stretch between two places. -/
def range : Schema :=
  plain "Range" [("start", position), ("end", position)]

/-- A document that is known by its address. -/
def document : Schema :=
  plain "TextDocumentIdentifier" [("uri", .address)]

/-- A document with its version. -/
def versionedDocument : Schema :=
  plain "VersionedTextDocumentIdentifier" [("uri", .address), ("version", .signed)]

/-- A document with its text. -/
def fullDocument : Schema :=
  plain "TextDocumentItem"
    [("uri", .address), ("languageId", .text), ("version", .signed), ("text", .text)]

/-- A name for the progress of some work. -/
def token : Schema :=
  .oneOf "NumberOrString" [.signed, .text]

/-- Where the progress of a request is reported. -/
def progress : Schema :=
  plain "WorkDoneProgressParams" [("workDoneToken", .optional token)]

/-- Where parts of a result are reported. -/
def partialResult : Schema :=
  plain "PartialResultParams" [("partialResultToken", .optional token)]

/-- A place of a document. -/
def place : Schema :=
  plain "TextDocumentPositionParams" [("textDocument", document), ("position", position)]

/-- Parameters about a place, with some of their own. -/
def atPlace (name : String) (fields : List (String × Schema)) : Schema :=
  .record name fields [place, progress, partialResult]

/-- Parameters about a document, with some of their own. -/
def ofDocument (name : String) (fields : List (String × Schema)) : Schema :=
  .record name (("textDocument", document) :: fields) [progress, partialResult]

/-- A change of the text of a document. -/
def change : Schema :=
  plain "TextDocumentContentChangeEvent"
    [("range", .optional range), ("rangeLength", .optional .unsigned), ("text", .text)]

/-- What an editor can run. -/
def command : Schema :=
  plain "Command"
    [("title", .text), ("command", .text), ("arguments", .optional (.list .anything))]

/-- What is wrong at a place. -/
def diagnostic : Schema :=
  plain "Diagnostic"
    [("range", range), ("severity", .optional .signed), ("code", .optional token),
      ("codeDescription", .optional (plain "CodeDescription" [("href", .address)])),
      ("source", .optional .text), ("message", .text),
      ("relatedInformation", .optional (.list .anything)),
      ("tags", .optional (.list .signed)), ("data", .optional .anything)]

/-- A symbol in a hierarchy. -/
def hierarchyItem (name : String) (tags : Schema) : Schema :=
  plain name
    [("name", .text), ("kind", .signed), ("tags", .optional tags), ("detail", .optional .text),
      ("uri", .address), ("range", range), ("selectionRange", range),
      ("data", .optional .anything)]

/-- A step through a hierarchy. -/
def hierarchyStep (name : String) (item : Schema) : Schema :=
  .record name [("item", item)] [progress, partialResult]

/-- How a text is to be laid out. -/
def layout : Schema :=
  .record "FormattingOptions"
    [("tabSize", .unsigned), ("insertSpaces", .boolean),
      ("trimTrailingWhitespace", .optional .boolean), ("insertFinalNewline", .optional .boolean),
      ("trimFinalNewlines", .optional .boolean)]
    [.table (.oneOf "FormattingProperty" [.boolean, .signed, .text])]

/-- Parameters about files. -/
def files (name item : String) (keys : List String) : Schema :=
  plain name [("files", .list (plain item (keys.map fun key => (key, .text))))]

/-! ### Parameters of supported methods -/

/-- What an editor says about itself. -/
def client : Schema :=
  plain "InitializeParams"
    [("processId", .optional .unsigned), ("rootPath", .optional .text),
      ("rootUri", .optional .address), ("initializationOptions", .optional .anything),
      ("capabilities",
        plain "ClientCapabilities"
          [("workspace", .optional (plain "WorkspaceClientCapabilities" [])),
            ("textDocument", .optional (plain "TextDocumentClientCapabilities" [])),
            ("notebookDocument", .optional (plain "NotebookDocumentClientCapabilities" [])),
            ("window", .optional (plain "WindowClientCapabilities" [])),
            ("general", .optional (plain "GeneralClientCapabilities" [])),
            ("offsetEncoding", .optional (.list .text)), ("experimental", .optional .anything)]),
      ("trace", .optional (.keyword ["off", "messages", "verbose"])),
      ("workspaceFolders",
        .optional (.list (plain "WorkspaceFolder" [("uri", .address), ("name", .text)]))),
      ("clientInfo",
        .optional (plain "ClientInfo" [("name", .text), ("version", .optional .text)])),
      ("locale", .optional .text)]

/-- A request for candidates. -/
def completion : Schema :=
  atPlace "CompletionParams"
    [("context",
      .optional (plain "CompletionContext"
        [("triggerKind", .signed), ("triggerCharacter", .optional .text)]))]

/-- A request for what is known about a place. -/
def hover : Schema :=
  .record "HoverParams" [] [place, progress]

/-- A document was opened. -/
def opened : Schema :=
  plain "DidOpenTextDocumentParams" [("textDocument", fullDocument)]

/-- A document was changed. -/
def changed : Schema :=
  plain "DidChangeTextDocumentParams"
    [("textDocument", versionedDocument), ("contentChanges", .list change)]

/-- A document was closed. -/
def closed : Schema :=
  plain "DidCloseTextDocumentParams" [("textDocument", document)]

/-! ### Parameters of other requests -/

/-- The requests that this server does not support, with their parameters. -/
def unsupported : List (String × Schema) :=
  [("textDocument/willSaveWaitUntil",
      plain "WillSaveTextDocumentParams" [("textDocument", document), ("reason", .signed)]),
    ("textDocument/declaration", atPlace "GotoDefinitionParams" []),
    ("textDocument/definition", atPlace "GotoDefinitionParams" []),
    ("textDocument/typeDefinition", atPlace "GotoDefinitionParams" []),
    ("textDocument/implementation", atPlace "GotoDefinitionParams" []),
    ("textDocument/references",
      atPlace "ReferenceParams"
        [("context", plain "ReferenceContext" [("includeDeclaration", .boolean)])]),
    ("textDocument/prepareCallHierarchy",
      .record "CallHierarchyPrepareParams" [] [place, progress]),
    ("callHierarchy/incomingCalls",
      hierarchyStep "CallHierarchyIncomingCallsParams"
        (hierarchyItem "CallHierarchyItem" (.list .signed))),
    ("callHierarchy/outgoingCalls",
      hierarchyStep "CallHierarchyOutgoingCallsParams"
        (hierarchyItem "CallHierarchyItem" (.list .signed))),
    ("textDocument/prepareTypeHierarchy",
      .record "TypeHierarchyPrepareParams" [] [place, progress]),
    ("typeHierarchy/supertypes",
      hierarchyStep "TypeHierarchySupertypesParams" (hierarchyItem "TypeHierarchyItem" .signed)),
    ("typeHierarchy/subtypes",
      hierarchyStep "TypeHierarchySubtypesParams" (hierarchyItem "TypeHierarchyItem" .signed)),
    ("textDocument/documentHighlight", atPlace "DocumentHighlightParams" []),
    ("textDocument/documentLink", ofDocument "DocumentLinkParams" []),
    ("documentLink/resolve",
      plain "DocumentLink"
        [("range", range), ("target", .optional .address), ("tooltip", .optional .text),
          ("data", .optional .anything)]),
    ("textDocument/codeLens", ofDocument "CodeLensParams" []),
    ("codeLens/resolve",
      plain "CodeLens"
        [("range", range), ("command", .optional command), ("data", .optional .anything)]),
    ("textDocument/foldingRange", ofDocument "FoldingRangeParams" []),
    ("textDocument/selectionRange",
      ofDocument "SelectionRangeParams" [("positions", .list position)]),
    ("textDocument/documentSymbol", ofDocument "DocumentSymbolParams" []),
    ("textDocument/semanticTokens/full", ofDocument "SemanticTokensParams" []),
    ("textDocument/semanticTokens/full/delta",
      ofDocument "SemanticTokensDeltaParams" [("previousResultId", .text)]),
    ("textDocument/semanticTokens/range",
      ofDocument "SemanticTokensRangeParams" [("range", range)]),
    ("textDocument/inlineValue",
      .record "InlineValueParams"
        [("textDocument", document), ("range", range),
          ("context",
            plain "InlineValueContext" [("frameId", .signed), ("stoppedLocation", range)])]
        [progress]),
    ("textDocument/inlayHint",
      .record "InlayHintParams" [("textDocument", document), ("range", range)] [progress]),
    ("inlayHint/resolve",
      plain "InlayHint"
        [("position", position), ("label", .oneOf "InlayHintLabel" [.text, .list .anything]),
          ("kind", .optional .signed), ("textEdits", .optional (.list .anything)),
          ("tooltip", .optional .anything), ("paddingLeft", .optional .boolean),
          ("paddingRight", .optional .boolean), ("data", .optional .anything)]),
    ("textDocument/moniker", atPlace "MonikerParams" []),
    ("completionItem/resolve",
      plain "CompletionItem"
        [("label", .text), ("labelDetails", .optional .anything), ("kind", .optional .signed),
          ("detail", .optional .text), ("documentation", .optional .anything),
          ("deprecated", .optional .boolean), ("preselect", .optional .boolean),
          ("sortText", .optional .text), ("filterText", .optional .text),
          ("insertText", .optional .text), ("insertTextFormat", .optional .signed),
          ("insertTextMode", .optional .signed), ("textEdit", .optional .anything),
          ("additionalTextEdits", .optional (.list .anything)), ("command", .optional command),
          ("commitCharacters", .optional (.list .text)), ("data", .optional .anything),
          ("tags", .optional (.list .signed))]),
    ("textDocument/diagnostic",
      ofDocument "DocumentDiagnosticParams"
        [("identifier", .optional .text), ("previousResultId", .optional .text)]),
    ("workspace/diagnostic",
      .record "WorkspaceDiagnosticParams"
        [("identifier", .optional .text),
          ("previousResultIds",
            .list (plain "PreviousResultId" [("uri", .address), ("value", .text)]))]
        [progress, partialResult]),
    ("textDocument/signatureHelp",
      .record "SignatureHelpParams"
        [("context",
          .optional (plain "SignatureHelpContext"
            [("triggerKind", .signed), ("triggerCharacter", .optional .text),
              ("isRetrigger", .boolean), ("activeSignatureHelp", .optional .anything)]))]
        [place, progress]),
    ("textDocument/codeAction",
      ofDocument "CodeActionParams"
        [("range", range),
          ("context",
            plain "CodeActionContext"
              [("diagnostics", .list diagnostic), ("only", .optional (.list .text)),
                ("triggerKind", .optional .signed)])]),
    ("codeAction/resolve",
      plain "CodeAction"
        [("title", .text), ("kind", .optional .text), ("diagnostics", .optional (.list diagnostic)),
          ("edit", .optional .anything), ("command", .optional command),
          ("isPreferred", .optional .boolean), ("disabled", .optional .anything),
          ("data", .optional .anything)]),
    ("textDocument/documentColor", ofDocument "DocumentColorParams" []),
    ("textDocument/colorPresentation",
      ofDocument "ColorPresentationParams"
        [("color",
            plain "Color" [("red", .real), ("green", .real), ("blue", .real), ("alpha", .real)]),
          ("range", range)]),
    ("textDocument/formatting",
      .record "DocumentFormattingParams"
        [("textDocument", document), ("options", layout)] [progress]),
    ("textDocument/rangeFormatting",
      .record "DocumentRangeFormattingParams"
        [("textDocument", document), ("range", range), ("options", layout)] [progress]),
    ("textDocument/onTypeFormatting",
      .record "DocumentOnTypeFormattingParams" [("ch", .text), ("options", layout)] [place]),
    ("textDocument/rename", .record "RenameParams" [("newName", .text)] [place, progress]),
    ("textDocument/prepareRename", place),
    ("textDocument/linkedEditingRange",
      .record "LinkedEditingRangeParams" [] [place, progress]),
    ("workspace/symbol",
      .record "WorkspaceSymbolParams" [("query", .text)] [partialResult, progress]),
    ("workspaceSymbol/resolve",
      plain "WorkspaceSymbol"
        [("name", .text), ("kind", .signed), ("tags", .optional (.list .signed)),
          ("containerName", .optional .text), ("location", .anything),
          ("data", .optional .anything)]),
    ("workspace/willCreateFiles", files "CreateFilesParams" "FileCreate" ["uri"]),
    ("workspace/willRenameFiles", files "RenameFilesParams" "FileRename" ["oldUri", "newUri"]),
    ("workspace/willDeleteFiles", files "DeleteFilesParams" "FileDelete" ["uri"]),
    ("workspace/executeCommand",
      .record "ExecuteCommandParams"
        [("command", .text), ("arguments", .defaulted (.list .anything))] [progress])]

/-- The notifications that this server takes no notice of. -/
def unheeded : List String :=
  ["textDocument/willSave", "textDocument/didSave", "workspace/didChangeConfiguration",
    "workspace/didChangeWorkspaceFolders", "workspace/didCreateFiles",
    "workspace/didRenameFiles", "workspace/didDeleteFiles", "workspace/didChangeWatchedFiles"]

end Params

/-- The method of a name.  Names that begin with a dollar sign are optional. -/
def Method.ofName (name : String) : Method :=
  match name with
  | "initialize" => .request .capabilities
  | "shutdown" => .request .shutdown
  | "textDocument/completion" => .request .completion
  | "textDocument/hover" => .request .hover
  | "initialized" => .notification .ready
  | "textDocument/didOpen" => .notification .opened
  | "textDocument/didChange" => .notification .changed
  | "textDocument/didClose" => .notification .closed
  | "$/cancelRequest" => .cancel
  | "exit" => .exit
  | _ =>
      match Params.unsupported.lookup name with
      | some params => .request (.unsupported params)
      | none =>
          if Params.unheeded.contains name then .notification .unheeded
          else .unknown ("$/".toList.isPrefixOf name.toList)

/-- The parameters of a request; all but one have some. -/
def RequestMethod.params : RequestMethod → Option Schema
  | .capabilities => some Params.client
  | .shutdown => none
  | .completion => some Params.completion
  | .hover => some Params.hover
  | .unsupported params => some params

/-- The parameters of a notification. -/
def NotificationMethod.params : NotificationMethod → Schema
  | .opened => Params.opened
  | .changed => Params.changed
  | .closed => Params.closed
  | .ready => Params.plain "InitializedParams" []
  | .unheeded => .anything

end QmlAssist
