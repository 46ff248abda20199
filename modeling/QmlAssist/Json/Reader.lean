import QmlAssist.Json.Basic
import QmlAssist.Json.Token

/-!
# Reading JSON

The reader is a machine that takes one token at a time.  The containers that are
still open are kept on a stack, so the height of the stack is the depth of
nesting, which is limited.

## Main Definitions

* `Reader` — the state of the machine, with `Reader.step`.
* `Json.parse?` — the value that a text denotes.
-/

namespace QmlAssist.Json

/-- A container that is still open, with its parts so far, the latest first. -/
inductive Frame where
  | array (done : List Json)
  /-- An object, with the key whose value is being read. -/
  | object (done : List (String × Json)) (key : String)

/-- What may come next. -/
inductive Awaiting where
  | value
  | valueOrEnd
  | key
  | keyOrEnd
  | colon
  | separator
  | nothing (result : Json)

/-- The state of the reader. -/
structure Reader where
  stack : List Frame
  awaiting : Awaiting

namespace Reader

/-- The greatest number of containers that may be open at once. -/
def depthLimit : Nat := 127

/-- The state before the first token. -/
def start : Reader := ⟨[], .value⟩

/-- Hand a finished value to the innermost open container. -/
def deliver (value : Json) : List Frame → Reader
  | [] => ⟨[], .nothing value⟩
  | .array done :: stack => ⟨.array (value :: done) :: stack, .separator⟩
  | .object done key :: stack => ⟨.object ((key, value) :: done) key :: stack, .separator⟩

/-- Take a token that begins a value. -/
def takeValue? (stack : List Frame) : Token → Option Reader
  | .null => some (deliver .null stack)
  | .bool value => some (deliver (.bool value) stack)
  | .number literal => some (deliver (.number literal) stack)
  | .string value => some (deliver (.string value) stack)
  | .openBracket =>
      if stack.length < depthLimit then some ⟨.array [] :: stack, .valueOrEnd⟩ else none
  | .openBrace =>
      if stack.length < depthLimit then some ⟨.object [] "" :: stack, .keyOrEnd⟩ else none
  | _ => none

/-- Take one token; there is no next state if the token may not come now. -/
def step (reader : Reader) (token : Token) : Option Reader :=
  match reader.awaiting, token, reader.stack with
  | .value, token, stack => takeValue? stack token
  | .valueOrEnd, .closeBracket, .array _ :: stack => some (deliver (.array []) stack)
  | .valueOrEnd, token, stack => takeValue? stack token
  | .keyOrEnd, .closeBrace, .object _ _ :: stack => some (deliver (.object []) stack)
  | .keyOrEnd, .string key, .object done _ :: stack => some ⟨.object done key :: stack, .colon⟩
  | .key, .string key, .object done _ :: stack => some ⟨.object done key :: stack, .colon⟩
  | .colon, .colon, stack => some ⟨stack, .value⟩
  | .separator, .comma, .array done :: stack => some ⟨.array done :: stack, .value⟩
  | .separator, .comma, .object done key :: stack => some ⟨.object done key :: stack, .key⟩
  | .separator, .closeBracket, .array done :: stack => some (deliver (.array done.reverse) stack)
  | .separator, .closeBrace, .object done _ :: stack =>
      some (deliver (ofFields done.reverse) stack)
  | _, _, _ => none

/-- The value that has been read, if the text is complete. -/
def result? (reader : Reader) : Option Json :=
  match reader.awaiting with
  | .nothing value => some value
  | _ => none

end Reader

/-- The value that a text denotes. -/
def parse? (text : String) : Option Json := do
  let tokens ← Token.scan? text
  let reader ← tokens.foldlM Reader.step Reader.start
  reader.result?

end QmlAssist.Json
