import Wiretap.Session.Context
import Wiretap.Session.Outcome

/-!
# Tunnels

A tunnel request names a host; once the host is connected to, the client is told so and from then on
bytes are carried both ways unread.  Bytes that the client sent ahead go first.  If the host cannot
be reached the client gets a reply instead.
-/

namespace Wiretap.Session

set_option autoImplicit false

open Message (RequestHead Reply.requestFailed Reply.tunnelOpen)

/-- The host of a tunnel could not be reached. -/
def tunnelFailed (c : Context) (target : Bytes) (f : Fault) : Task Unit := do
  c.report .error s!"CONNECT {Text.Utf8.toText target} failed: {f.message}"
  tell (.metric (.targetFailed Protocol.http.name))
  replyText .badGateway Reply.requestFailed

/-- What is counted and reported when a tunnel ends.  The bytes sent ahead were carried too. -/
def tunnelEnded (c : Context) (ahead : Bytes) (carried : Carried) : Task Unit := do
  match carried.fault with
  | some e =>
    tell (.log {
      level := .debug
      message := "CONNECT relay ended"
      fields := [("connection_id", c.peer.connection), ("error", e.message)] })
  | none =>
    let sent := carried.sent + ahead.length
    tell (.metric (.relayed Protocol.http.name .outbound sent))
    tell (.metric (.relayed Protocol.http.name .inbound carried.received))
    c.report .debug
      s!"CONNECT tunnel closed (sent {sent} bytes, received {carried.received} bytes)"

/-- The tunnel once its host is connected to. -/
def tunnelConnected (c : Context) (target : Bytes) : Task Unit := do
  reply Reply.tunnelOpen
  let ahead ← get (Except.mapError Fault.io (← ask .detach))
  unless ahead.isEmpty do
    get (Except.mapError Fault.io (← ask (.sendAhead ahead)))
  c.report .info s!"CONNECT tunnel open to {Text.Utf8.toText target}"
  tunnelEnded c ahead (← ask .carry)

/-- Serves a tunnel request. -/
def tunnel (c : Context) (h : RequestHead) : Task Unit := do
  match Reading.result .tunnelTarget (← ask (.dial h.host)) with
  | .ok () => tunnelConnected c h.host
  | .error f => tunnelFailed c h.host f

end Wiretap.Session
