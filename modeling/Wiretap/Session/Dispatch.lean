import Wiretap.Message.HeadStream
import Wiretap.Session.Forward
import Wiretap.Session.Greeting
import Wiretap.Session.Tunnel
import Wiretap.Session.Upgrade

/-!
# Dispatch

The first bytes of a connection decide how it is served.  A greeting is told by its first byte,
which is only looked at.  Anything else must be a request head, which is read; it asks for an
upgrade, for a tunnel, or for something to be passed on.  A client whose request cannot be read is
told so.  A client that sends nothing is not answered.
-/

namespace Wiretap.Session

set_option autoImplicit false

open Message (RequestHead)

/-- What the first bytes of a connection turned out to be. -/
inductive Opening where
  /-- The peer closed without sending anything. -/
  | nothing
  | greeting
  | request (h : RequestHead)
  deriving DecidableEq, Repr

namespace Opening

/-- The protocol that serves a connection with this opening. -/
def protocol? : Opening → Option Protocol
  | nothing => none
  | greeting => some .socks5
  | request h => if WebSocket.isUpgrade h then some .webSocket else some .http

end Opening

/-- Looks at the first bytes of a connection. -/
def sniff : Task Opening := do
  match ← get (Reading.result .firstByte (← ask .firstByte)) with
  | none => return .nothing
  | some b =>
    if isGreeting b then return .greeting
    else
      let found ← get (Reading.result .requestHead (← ask .head))
      return .request (← get found.result)

/-- Serves a request by the processor that it asks for. -/
def serveRequest (c : Context) (h : RequestHead) : Task Unit :=
  if WebSocket.isUpgrade h then upgrade c h
  else if h.isTunnel then tunnel c h
  else forward c h

/-- Serves a connection with the given opening. -/
def serve (c : Context) : Opening → Task Unit
  | .nothing => return ()
  | .greeting => refuseGreeting c
  | .request h => serveRequest c h

/-- What a client is told whose request cannot be read. -/
def unreadable : Bytes :=
  Message.Reply.plainText .badRequest (Bytes.ascii "Bad Request\n")

/-- Tells the client that its request cannot be read; failing to is only logged. -/
def rejectUnreadable : Task Unit := do
  match Reading.result .replyWritten (← ask (.reply unreadable)) with
  | .ok () => return ()
  | .error f =>
    tell (.log {
      level := .debug
      message := "Failed to send 400 response"
      fields := [("error", f.message)] })

/-- Whether a fault means that the request cannot be read. -/
def isUnreadable : Fault → Bool
  | .badRequest _ => true
  | .headTooLong _ => true
  | _ => false

/-- The fault that a task ends with, if any. -/
def faultOf {α : Type} : Except Fault α → Option Fault
  | .ok _ => none
  | .error f => some f

/-- Serves a connection whose opening is known. -/
def serveOpening (c : Context) (o : Opening) : Dialogue Outcome := do
  match o.protocol? with
  | none =>
    Dialogue.note (.log { level := .debug, message := "Peer closed before sending any data" })
    return ⟨none, none⟩
  | some p =>
    c.announce .debug s!"dispatched to {p.name} processor"
    let result ← (serve c o).run
    return ⟨some p, faultOf result⟩

/-- Serves a connection. -/
def dispatch (c : Context) : Dialogue Outcome := do
  match ← sniff.run with
  | .ok o => serveOpening c o
  | .error f =>
    if isUnreadable f then
      let _ ← rejectUnreadable.run
    return ⟨none, some f⟩

end Wiretap.Session
