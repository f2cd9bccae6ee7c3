import Wiretap.Session.Context
import Wiretap.Session.Outcome
import Wiretap.WebSocket.Handshake

/-!
# Upgraded connections

A request for an upgrade is passed on to its host before the client is answered, so that a client
whose host cannot be reached still gets a plain reply.  A host may accept without selecting any of
the subprotocols offered; it is then asked again without an offer, and the client is told of no
subprotocol either.  Once both sides are upgraded, messages are carried both ways.
-/

namespace Wiretap.Session

set_option autoImplicit false

open Message (RequestHead Reply.upgradeFailed)
open WebSocket (Handshake)

/-- What a client is told that sent no key. -/
def missingKey : Bytes := Bytes.ascii "Missing Sec-WebSocket-Key\n"

/-- Asks the host of a handshake for an upgrade. -/
def askUpgrade (h : Handshake) : Task Upgraded := do
  match h.request (← ask .freshKey) with
  | .error e => return .failed e
  | .ok request => ask (.upgrade request)

/-- The subprotocol that the host selected, or the fault that takes its place. -/
def upgradeResult : Upgraded → Except Fault (Option Bytes)
  | .accepted protocol => .ok protocol
  | .failed e => .error (.upgrade e)
  | .expired => .error (.timeout .upgradeTarget)

/-- Asks again without an offer where the host selected nothing of one. -/
def negotiate (h : Handshake) : Task (Except Fault (Option Bytes)) := do
  match ← askUpgrade h with
  | .failed .nothingSelected =>
    if h.protocols.isSome then
      tell (.log {
        level := .debug
        message := "Upstream selected no subprotocol, redialing without an offer"
        fields := [("url", Text.Utf8.toText h.url)] })
      return (upgradeResult (← askUpgrade h.withoutOffer)).map fun _ => none
    else return upgradeResult (.failed .nothingSelected)
  | answer => return upgradeResult answer

/-- Opens an upgraded connection to the host of a handshake. -/
def dialUpgrade (h : Handshake) : Task (Except Fault (Option Bytes)) := do
  match Url.check (Text.Utf8.toText h.url).toList with
  | .error why => return .error (.badTarget (.location h.url why))
  | .ok () => negotiate h

/-- The host could not be reached or did not accept. -/
def upgradeRefused (c : Context) (h : Handshake) (f : Fault) : Task Unit := do
  c.report .error s!"WebSocket upstream {Text.Utf8.toText h.url} unreachable: {f.message}"
  tell (.metric (.targetFailed Protocol.webSocket.name))
  tell (.hook (.fault f "websocket upstream dial"))
  replyText .badGateway Reply.upgradeFailed

/-- The head that accepts an upgrade. -/
def switching (key : Bytes) (protocol : Option Bytes) : Bytes :=
  Bytes.ascii "HTTP/1.1 101 Switching Protocols\r\n"
    ++ Message.Reply.fieldLine (Bytes.ascii "Upgrade") (Bytes.ascii "websocket")
    ++ Message.Reply.fieldLine (Bytes.ascii "Connection") (Bytes.ascii "Upgrade")
    ++ Message.Reply.fieldLine (Bytes.ascii "Sec-WebSocket-Accept")
      (Bytes.ascii (WebSocket.acceptKey key))
    ++ (match protocol.filter fun p => p.all Bytes.isVisible with
      | some p => Message.Reply.fieldLine (Bytes.ascii "Sec-WebSocket-Protocol") p
      | none => [])
    ++ Bytes.crlf

/-- Carries messages both ways until one direction ends. -/
def relayMessages (c : Context) (ahead : Bytes) : Task Unit := do
  let relayed ← ask (.relay ahead)
  c.report .debug
    s!"WebSocket tunnel closed after {relayed.direction.name} relay ended ({relayed.bytes} bytes)"

/-- The upgraded connection once its host has accepted. -/
def upgradeAccepted (c : Context) (h : Handshake) (key : Bytes) (protocol : Option Bytes) :
    Task Unit := do
  let ahead ← get (Except.mapError Fault.io (← ask .detach))
  get (Reading.result .upgradeAnswered (← ask (.rawReply (switching key protocol))))
  c.report .info s!"WebSocket tunnel open to {Text.Utf8.toText h.url}"
  relayMessages c ahead

/-- Serves a request for an upgrade. -/
def upgrade (c : Context) (h : RequestHead) : Task Unit := do
  c.report .debug s!"starting WebSocket connection to {Text.Utf8.toText h.host}"
  match h.fields.get? Message.Name.webSocketKey with
  | none => replyText .badRequest missingKey
  | some key =>
    let handshake := Handshake.ofHead c.settings.tlsTerminated h
    match ← dialUpgrade handshake with
    | .error f => upgradeRefused c handshake f
    | .ok protocol => upgradeAccepted c handshake key protocol

end Wiretap.Session
