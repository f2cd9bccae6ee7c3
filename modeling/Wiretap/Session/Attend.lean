import Wiretap.Session.Dispatch
import Wiretap.Text.Span

/-!
# Attending a connection

A connection is attended from the moment it is accepted to the moment it is closed.  Observers hear
of its start before anything of its service, and of its end after everything; in between they hear
what the service tells.  Whatever the service comes to, the connection is closed and its end is
told.
-/

namespace Wiretap.Session

set_option autoImplicit false

/-- What observers hear before a connection is served. -/
def opening (c : Context) : Dialogue Unit := do
  Dialogue.note (.metric .opened)
  c.announce .info s!"accepted from {c.peer.address}"
  Dialogue.note (.hook .started)
  Dialogue.note (.hook .handled)

/-- What observers hear of a service that ended with a fault. -/
def failure (c : Context) (o : Outcome) : Dialogue Unit :=
  match o.fault with
  | none => return ()
  | some f => do
    let during := o.protocolName "dispatch"
    c.announce .error s!"{during} processing failed: {f.message}"
    Dialogue.note (.hook (.fault f during))

/-- Closes the connection; failing to is only logged. -/
def closeQuietly : Dialogue Unit := do
  match ← Dialogue.question .close with
  | .ok () => return ()
  | .error e =>
    Dialogue.note (.log {
      level := .debug
      message := "Close after processing failed"
      fields := [("error", e.message)] })

/-- What observers hear when a connection has been closed. -/
def ending (c : Context) (o : Outcome) : Dialogue Unit := do
  let micros ← Dialogue.question .elapsed
  Dialogue.note (.hook (.ended micros))
  Dialogue.note (.metric (.closed (o.protocolName "none") o.label))
  c.announce .debug s!"closed after {(⟨micros⟩ : Text.Span).text}"

/-- Attends a connection, with some service for it. -/
def attendWith (c : Context) (service : Dialogue Outcome) : Dialogue Outcome := do
  opening c
  let outcome ← service
  failure c outcome
  closeQuietly
  ending c outcome
  return outcome

/-- Attends a connection. -/
def attend (c : Context) : Dialogue Outcome := attendWith c (dispatch c)

end Wiretap.Session
