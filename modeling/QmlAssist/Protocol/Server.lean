import QmlAssist.Protocol.Answer
import QmlAssist.Protocol.Message

/-!
# The language server

The server keeps a workspace for one editor.  It serves the editor between the first
request and the request to shut down, and takes no notice of anything after it was
told to exit.

A message is looked at in this order: whether the protocol knows its method, whether
it comes at its time, whether it carries an identity if and only if it is a request,
and whether its parameters fit.  Requests that fail are refused, and notifications
that fail are dropped.

## Main Definitions

* `Workspace.notify` — the effect of a notification, with what is written to the
  editor's log.
* `Workspace.answer` — the answer to a request.
* `Server.handle` — one message, in its place in the life of the server.
* `Server.handleJson` — what came in place of a message.
-/

namespace QmlAssist

namespace Workspace

/-- What the editor is told once it is ready. -/
def greeting (w : Workspace) : String :=
  "qmlantom initialized! Catalog has " ++ toString w.catalog.modules.length ++
    " module(s), " ++ toString w.catalog.components.length ++ " component(s)"

/-- The effect of a notification: the new workspace, and the messages for the
editor's log. -/
def notify (w : Workspace) : Notification → Workspace × List String
  | .ready => (w, [w.greeting])
  | .opened uri text => (w.openDocument uri text, ["Opened file: " ++ uri])
  | .changed uri texts => (w.changeDocument uri texts, [])
  | .closed uri => (w.closeDocument uri, ["Closed file: " ++ uri])
  | .unheeded => (w, [])

end Workspace

/-- A refusal, with its number in the protocol. -/
structure Refusal where
  code : Int
  message : String
deriving DecidableEq, Repr

namespace Refusal

/-- A request that cannot be answered counts as one with the wrong parameters. -/
def ofRequestError (e : RequestError) : Refusal := ⟨-32602, e.message⟩

/-- The parameters of a request cannot be used. -/
def ofParamsError (e : ParamsError) : Refusal := ⟨-32602, e.message⟩

/-- The server does not support the method. -/
def unknownMethod : Refusal := ⟨-32601, "Method not found"⟩

/-- A message came too late or a second time, or was no request. -/
def invalidRequest : Refusal := ⟨-32600, "Invalid request"⟩

/-- What came was no JSON. -/
def notJson : Refusal := ⟨-32700, "Parse error"⟩

/-- A message came too early. -/
def notStarted : Refusal := ⟨-32002, "Server not initialized"⟩

end Refusal

/-- The answer to a request. -/
def Workspace.answer (w : Workspace) : Request → Except Refusal Json
  | .capabilities => .ok Answer.capabilities
  | .shutdown => .ok .null
  | .completion uri p =>
      ((w.complete uri p).map Answer.completion).mapError Refusal.ofRequestError
  | .hover uri p => ((w.hover uri p).map Answer.hover).mapError Refusal.ofRequestError
  | .unsupported => .error .unknownMethod

/-- The life of a server. -/
inductive Phase where
  | fresh
  | running
  | stopping
  | ended
deriving DecidableEq, Repr

/-- A server with its workspace. -/
structure Server where
  workspace : Workspace
  phase : Phase
deriving DecidableEq, Repr

/-- What the server sends to the editor. -/
inductive Outgoing where
  | reply (id : Json) (outcome : Except Refusal Json)
  | log (message : String)

/-- What is refused is answered only if it has an identity. -/
def Outgoing.refuse (id : Option Json) (refusal : Refusal) : List Outgoing :=
  id.toList.map fun id => .reply id (.error refusal)

namespace Phase

/-- Why a running server is needed and not there. -/
def untimely? : Phase → Option Refusal
  | .fresh => some .notStarted
  | .running => none
  | .stopping => some .invalidRequest
  | .ended => some .invalidRequest

/-- Why a request does not come at its time.  The first request comes once. -/
def refuses? (phase : Phase) : RequestMethod → Option Refusal
  | .capabilities => if phase = .fresh then none else some .invalidRequest
  | _ => phase.untimely?

end Phase

namespace Server

/-- The server before the first message. -/
def start (catalog : Catalog) : Server := ⟨Workspace.start catalog, .fresh⟩

/-- The phase after a request that came at its time.  Only an answered first request
starts the server, but any request to shut down stops it. -/
def phaseAfter (s : Server) (method : RequestMethod) (isAnswered : Bool) : Phase :=
  match method with
  | .capabilities => if isAnswered then .running else s.phase
  | .shutdown => .stopping
  | _ => s.phase

/-- Handle a request that comes at its time. -/
def respond (s : Server) (id : Option Json) (method : RequestMethod) (params : Option Json) :
    Server × List Outgoing :=
  match id with
  | none => (⟨s.workspace, s.phaseAfter method false⟩, [])
  | some id =>
      match method.decode params with
      | .error e =>
          (⟨s.workspace, s.phaseAfter method false⟩, [.reply id (.error (.ofParamsError e))])
      | .ok request =>
          (⟨s.workspace, s.phaseAfter method true⟩, [.reply id (s.workspace.answer request)])

/-- Handle a notification that comes at its time. -/
def receive (s : Server) (method : NotificationMethod) (params : Option Json) :
    Server × List Outgoing :=
  match method.decode? params with
  | none => (s, [])
  | some notification =>
      let (workspace, messages) := s.workspace.notify notification
      (⟨workspace, s.phase⟩, messages.map .log)

/-- Handle one message: the new state and what is sent. -/
def handle (s : Server) (message : Message) : Server × List Outgoing :=
  if s.phase = .ended then (s, [])
  else
    match message.method with
    | .unknown isOptional =>
        (s, if isOptional then [] else Outgoing.refuse message.id .unknownMethod)
    | .exit => (⟨s.workspace, .ended⟩, [])
    | .cancel => (s, Outgoing.refuse message.id .invalidRequest)
    | .request method =>
        match s.phase.refuses? method with
        | some refusal => (s, Outgoing.refuse message.id refusal)
        | none => s.respond message.id method message.params
    | .notification method =>
        match s.phase.untimely? with
        | some refusal => (s, Outgoing.refuse message.id refusal)
        | none =>
            if message.id.isSome then (s, Outgoing.refuse message.id .invalidRequest)
            else s.receive method message.params

/-- Handle a JSON value, or the lack of one.  What is no message has no identity
either. -/
def handleJson (s : Server) (json : Option Json) : Server × List Outgoing :=
  if s.phase = .ended then (s, [])
  else
    match json with
    | none => (s, [.reply .null (.error .notJson)])
    | some json =>
        match Message.decode? json with
        | some message => s.handle message
        | none => (s, [.reply .null (.error .invalidRequest)])

end Server

namespace Outgoing

/-- A message to the editor in JSON. -/
def encode : Outgoing → Json
  | .reply id (.ok result) =>
      .ofFields [("jsonrpc", .string "2.0"), ("id", id), ("result", result)]
  | .reply id (.error refusal) =>
      .ofFields
        [("jsonrpc", .string "2.0"), ("id", id),
          ("error", .ofFields
            [("code", .ofInt refusal.code), ("message", .string refusal.message)])]
  | .log message =>
      .ofFields
        [("jsonrpc", .string "2.0"), ("method", .string "window/logMessage"),
          ("params", Answer.logMessage message)]

end Outgoing

end QmlAssist
