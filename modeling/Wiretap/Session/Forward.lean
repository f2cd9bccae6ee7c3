import Wiretap.Message.Fields
import Wiretap.Session.Context
import Wiretap.Session.Outcome

/-!
# Forwarded requests

A request is passed on to its host, and the host's response to the client.  The body is read whole
before the request is passed on, and the response before it is written, so that observers see whole
payloads.  A request whose body has no plain length, or one that is too long, is answered by the
proxy itself.
-/

namespace Wiretap.Session

set_option autoImplicit false

open Message (RequestHead Reply.requestFailed Status Uri)

/-- The longest body that is passed on. -/
def bodyLimit : Nat := 8388608

/-- What a client is told when the host took too long. -/
def requestTimedOut : Bytes := Bytes.ascii "Upstream request timed out\n"

/-- A reply that takes the place of passing a request on. -/
structure Refused where
  status : Status
  body : Bytes
  deriving DecidableEq, Repr

namespace Refused

def chunked : Refused :=
  ⟨.notImplemented, Bytes.ascii "Chunked request bodies are not supported\n"⟩

def tooLong : Refused := ⟨.payloadTooLarge, Bytes.ascii "Payload Too Large\n"⟩

def badLength : Refused := ⟨.badRequest, Bytes.ascii "Invalid Content-Length\n"⟩

def badTarget : Refused := ⟨.badRequest, Bytes.ascii "Invalid request target\n"⟩

end Refused

/-- Whether the body comes in chunks. -/
def isChunked (h : RequestHead) : Bool :=
  (h.text? Message.Name.transferEncoding).any fun v =>
    Bytes.containsSlice (Bytes.ascii "chunked") v.fold

/-- The length of the body; no length means no body. -/
def bodyLength (h : RequestHead) : Except Refused Nat :=
  match h.text? Message.Name.contentLength with
  | none => .ok 0
  | some v =>
    match Text.Decimal.size? (Bytes.toChars v) with
    | none => .error .badLength
    | some n => if n ≤ bodyLimit then .ok n else .error .tooLong

/-- The target that the request is passed on to. -/
def forwardTarget (h : RequestHead) : Except Refused Uri :=
  (Uri.parse (Uri.http ++ Uri.schemeMark ++ h.host ++ h.path)).mapError fun _ => .badTarget

/-- What is known about a request before its body is read. -/
structure Plan where
  uri : Uri
  length : Nat
  deriving DecidableEq, Repr

/-- Decides whether a request is passed on. -/
def plan (h : RequestHead) : Except Refused Plan := do
  if isChunked h then .error .chunked
  let length ← bodyLength h
  let uri ← forwardTarget h
  return ⟨uri, length⟩

/-- The request as it is passed on. -/
def forwarded (h : RequestHead) (uri : Uri) (body : Bytes) : Forwarded :=
  ⟨h.method, uri, Message.endToEnd h.fields, body⟩

/-- The host could not be reached, or did not give a whole response. -/
def forwardFailed (c : Context) (message : String) : Task Unit := do
  c.report .error message
  tell (.metric (.targetFailed Protocol.http.name))
  replyText .badGateway Reply.requestFailed

/-- The host took too long. -/
def forwardExpired : Task Unit := do
  tell (.metric (.targetFailed Protocol.http.name))
  replyText .gatewayTimeout requestTimedOut

/-- Passes a response on to the client. -/
def passBack (c : Context) (h : RequestHead) (response : ResponseHead) (body : Bytes) :
    Task Unit := do
  let wire := Message.Reply.head response.status (Message.endToEnd response.fields) body.length
    ++ body
  tell (.hook (.packet .inbound wire))
  tell (.metric (.relayed Protocol.http.name .inbound body.length))
  reply wire
  c.report .info
    s!"{h.method.toText} {Text.Utf8.toText h.target} -> {response.status.code}"

/-- Reads the body of a response and passes the response on. -/
def receive (c : Context) (h : RequestHead) (response : ResponseHead) : Task Unit := do
  match ← ask .responseBody with
  | .got body => passBack c h response body
  | .failed why =>
    forwardFailed c s!"upstream body from {Text.Utf8.toText h.host} failed: {why}"
  | .expired => forwardExpired

/-- Passes a request on. -/
def passOn (c : Context) (h : RequestHead) (uri : Uri) (body : Bytes) : Task Unit := do
  tell (.hook (.packet .outbound (h.raw ++ body)))
  tell (.metric (.relayed Protocol.http.name .outbound body.length))
  c.report .debug s!"forwarding {h.method.toText} {Text.Utf8.toText uri.bytes}"
  match ← ask (.exchange (forwarded h uri body)) with
  | .got response => receive c h response
  | .failed why => forwardFailed c s!"upstream {Text.Utf8.toText h.host} failed: {why}"
  | .expired =>
    c.report .error s!"upstream {Text.Utf8.toText h.host} timed out"
    forwardExpired

/-- Serves a request that is not for a tunnel. -/
def forward (c : Context) (h : RequestHead) : Task Unit := do
  match plan h with
  | .error refused => replyText refused.status refused.body
  | .ok p =>
    let body ← get (Reading.result .requestBody (← ask (.body p.length)))
    passOn c h p.uri body

end Wiretap.Session
