import Wiretap.Session.Context
import Wiretap.Session.Outcome

/-!
# Refused greetings

A client that greets as for a SOCKS version 5 proxy is told that none of the methods it offers will
do.  The whole greeting is read first: the version, the number of methods, and the methods.
-/

namespace Wiretap.Session

set_option autoImplicit false

/-- The byte that begins a greeting. -/
def greetingByte : UInt8 := 0x05

/-- Whether a stream that begins with the byte begins with a greeting. -/
def isGreeting (first : UInt8) : Bool := first == greetingByte

/-- The answer that no method is acceptable. -/
def noMethod : Bytes := [greetingByte, 0xff]

/-- The methods as a list of numbers. -/
def methodsText (methods : Bytes) : String :=
  "[" ++ ", ".intercalate (methods.map fun m => toString m.toNat) ++ "]"

/-- Refuses a greeting. -/
def refuseGreeting (c : Context) : Task Unit := do
  let methods ← get (Reading.result .greeting (← ask .greeting))
  tell (.log {
    level := .debug
    message := "Refusing SOCKS5 negotiation"
    fields := [("peer_addr", c.peer.address), ("offered_methods", methodsText methods)] })
  get (Except.mapError Fault.io (← ask (.refusal noMethod)))
  throw (.unsupported Protocol.socks5.name)

end Wiretap.Session
