import QmlAssist.Json.Printer
import QmlAssist.Json.Reader
import QmlAssist.Protocol.Server
import QmlAssist.Text.Pieces

/-!
# Frames

On the wire a message is a frame: header lines, an empty line, and as many bytes
of JSON as the header says.
-/

namespace QmlAssist.Frame

/-- The name of the header that gives the length of the body. -/
def lengthHeader : String := "content-length"

/-- The number of bytes that a header line announces, if it is the one that says
so. -/
def contentLength? (line : String) : Option Nat := do
  let (name, value) ← Text.cut ':' line.toList
  if String.ofList ((Text.trim name).map Char.toLower) = lengthHeader then
    (Json.number (String.ofList (Text.trim value))).asNat?
  else none

/-- Whether a line ends the header. -/
def endsHeader (line : String) : Bool :=
  Text.trim line.toList = []

/-- A message as a frame. -/
def render (message : Outgoing) : String :=
  let body := message.encode.render
  "Content-Length: " ++ toString body.utf8ByteSize ++ "\r\n\r\n" ++ body

end QmlAssist.Frame
