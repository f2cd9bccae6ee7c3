import Wiretap.Fault

/-!
# Outcomes

How serving a connection ended: by which protocol, if any was chosen, and whether with a fault.
-/

namespace Wiretap.Session

set_option autoImplicit false

/-- The protocols that connections are served by. -/
inductive Protocol where
  | http
  | webSocket
  | socks5
  deriving DecidableEq, Repr

namespace Protocol

def name : Protocol → String
  | http => "http"
  | webSocket => "websocket"
  | socks5 => "socks5"

end Protocol

/-- How serving a connection ended. -/
structure Outcome where
  protocol : Option Protocol
  fault : Option Fault
  deriving DecidableEq, Repr

namespace Outcome

/-- The word under which the outcome is counted. -/
def label (o : Outcome) : String := (o.fault.map Fault.kind).getD "ok"

/-- The name of the protocol, or another word where none was chosen. -/
def protocolName (o : Outcome) (none : String) : String := (o.protocol.map Protocol.name).getD none

end Outcome

end Wiretap.Session
