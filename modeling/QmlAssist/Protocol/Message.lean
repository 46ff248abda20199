import QmlAssist.Protocol.Method
import QmlAssist.Workspace.Basic

/-!
# Messages of the language server protocol

An editor talks to a language server in JSON.  Requests carry an identity and are
answered; notifications are not.

## Main Definitions

* `Message.decode?` — the message that a JSON object is.
* `Request`, `Notification` — what an editor asks and tells.
* `RequestMethod.decode`, `NotificationMethod.decode?` — what a method means with its
  parameters.
-/

namespace QmlAssist

/-- What an editor asks. -/
inductive Request where
  | capabilities
  | shutdown
  | completion (uri : Uri) (p : Position)
  | hover (uri : Uri) (p : Position)
  | unsupported
deriving DecidableEq, Repr

/-- What an editor tells. -/
inductive Notification where
  | ready
  | opened (uri : Uri) (text : String)
  | changed (uri : Uri) (texts : List String)
  | closed (uri : Uri)
  | unheeded
deriving DecidableEq, Repr

/-- Why the parameters of a request cannot be used. -/
inductive ParamsError where
  | absent
  /-- The request has no parameters, and some came with it. -/
  | unexpected (params : Json)
  | unfit (fault : Schema.Fault)

/-- What is said about parameters that cannot be used. -/
def ParamsError.message : ParamsError → String
  | .absent => "Missing params field"
  | .unexpected params => "Unexpected params: " ++ params.render
  | .unfit fault => fault.message

/-! ### Parts of parameters that fit -/

namespace Params

/-- A field of a record with the given keys. -/
def field? (keys : List String) (key : String) : Json → Option Json
  | .array items => (keys.zip items).lookup key
  | json => json.field? key

/-- The address of a document, in normal form. -/
def uri? (params : Json) : Option Uri := do
  let document ← field? ["textDocument", "contentChanges"] "textDocument" params
  Address.normalize? (← (← field? ["uri"] "uri" document).asString?)

/-- The text of a document that was opened. -/
def text? (params : Json) : Option String := do
  let document ← field? ["textDocument"] "textDocument" params
  (← field? ["uri", "languageId", "version", "text"] "text" document).asString?

/-- The texts of a document that was changed.  Every change brings the whole text,
whatever stretch it names. -/
def texts? (params : Json) : Option (List String) := do
  let changes ← field? ["textDocument", "contentChanges"] "contentChanges" params
  (← changes.asArray?).mapM fun change => do
    (← field? ["range", "rangeLength", "text"] "text" change).asString?

/-- The position in the parameters of a request. -/
def position? (params : Json) : Option Position := do
  let p ← params.field? "position"
  let coordinate? := fun key => (field? ["line", "character"] key p).bind Json.asNat?
  some ⟨← coordinate? "line", ← coordinate? "character"⟩

end Params

namespace RequestMethod

/-- The request that a method makes with parameters that fit. -/
def withParams? (method : RequestMethod) (params : Json) : Option Request :=
  match method with
  | .capabilities => some .capabilities
  | .shutdown => some .shutdown
  | .completion => do some (.completion (← Params.uri? params) (← Params.position? params))
  | .hover => do some (.hover (← Params.uri? params) (← Params.position? params))
  | .unsupported _ => some .unsupported

/-- The request that a method makes with its parameters. -/
def decode (method : RequestMethod) (params : Option Json) : Except ParamsError Request :=
  match method.params, params with
  | none, none => .ok ((method.withParams? .null).getD .unsupported)
  | none, some params => .error (.unexpected params)
  | some _, none => .error .absent
  | some schema, some params =>
      match schema.fault? false params with
      | some fault => .error (.unfit fault)
      | none => .ok ((method.withParams? params).getD .unsupported)

end RequestMethod

namespace NotificationMethod

/-- The notification that a method makes with parameters that fit. -/
def withParams? (method : NotificationMethod) (params : Json) : Option Notification :=
  match method with
  | .ready => some .ready
  | .opened => do some (.opened (← Params.uri? params) (← Params.text? params))
  | .changed => do some (.changed (← Params.uri? params) (← Params.texts? params))
  | .closed => do some (.closed (← Params.uri? params))
  | .unheeded => some .unheeded

/-- The notification that a method makes with its parameters, if these fit. -/
def decode? (method : NotificationMethod) (params : Option Json) : Option Notification := do
  let params ← params
  if method.params.fits params then method.withParams? params else none

end NotificationMethod

/-- A message from the editor. -/
structure Message where
  /-- The identity of a request. -/
  id : Option Json
  method : Method
  params : Option Json

namespace Message

/-- Whether a value can be the identity of a request. -/
def isId : Json → Bool
  | .null => true
  | .string _ => true
  | .number literal => (Json.integer? literal).any (· < 0x8000000000000000)
  | _ => false

/-- The message that a JSON object is.  A message without a method names the empty
one. -/
def decode? (json : Json) : Option Message := do
  let name ← ((json.field? "method").getD (.string "")).asString?
  let id := json.field? "id"
  if id.all isId then some ⟨id, .ofName name, json.field? "params"⟩ else none

end Message

end QmlAssist
