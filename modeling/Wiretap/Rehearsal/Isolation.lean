import Wiretap.Address.Socket
import Wiretap.Session.Dialogue

/-!
# A network without hosts

In a rehearsal no other host can be reached.  What is found out before a host is reached is still
told: whether the target names an address and a port, and whether the name of a host can be
resolved, which holds of addresses and of the loopback.
-/

namespace Wiretap.Rehearsal.Isolation

set_option autoImplicit false

open Message (Uri)
open Session (Question)

def unreachable : IoFault := ⟨.networkUnreachable, "Network is unreachable (os error 101)"⟩

def notAnAddress : IoFault := ⟨.invalidInput, "invalid socket address"⟩

def notAPort : IoFault := ⟨.invalidInput, "invalid port value"⟩

def unresolved : IoFault :=
  ⟨.uncategorized, "failed to lookup address information: Temporary failure in name resolution"⟩

/-- Whether a host can be resolved without asking anybody. -/
def isResolved (host : List Char) : Bool :=
  Url.Host.isIpv4 host || (Address.Ip.ofChars? host).isSome || host == "localhost".toList

/-- Why a host with that name is not reached. -/
def hostFault (host : List Char) : IoFault := if isResolved host then unreachable else unresolved

/-- Why a target is not reached: a target is an address with a port, or a name with a port. -/
def targetFault (target : Bytes) : IoFault :=
  let cs := (Text.Utf8.toText target).toList
  if (Address.Socket.ofChars? cs).isSome then unreachable
  else match Bytes.cutAtLast? Bytes.colon target with
    | none => notAnAddress
    | some (host, port) =>
      match Text.Decimal.port? (Bytes.toChars port) with
      | none => notAPort
      | some _ => hostFault (Text.Utf8.toText host).toList

/-- The host of an authority, without the brackets of a version 6 address. -/
def bareHost (authority : Bytes) : List Char :=
  (Bytes.toChars (Uri.host authority)).filter fun c => c != '[' && c != ']'

/-- What a request comes to. -/
def exchangeFailure : String := "client error (Connect)"

/-- A key for an upgrade that no host ever sees. -/
def key : Bytes := Bytes.ascii "AAAAAAAAAAAAAAAAAAAAAA=="

/-- The answer to a question that is not about the client's stream. -/
def answer? : (q : Question) → Option q.Answer
  | .dial target => some (.failed (targetFault target))
  | .exchange _ => some (.failed exchangeFailure)
  | .responseBody => some (.failed exchangeFailure)
  | .freshKey => some key
  | .upgrade r => some (.failed (.io (hostFault (bareHost r.uri.authority))))
  | .relay _ => some (⟨.outbound, 0⟩ : WebSocket.Relayed)
  | .elapsed => some (0 : Nat)
  | _ => none

end Wiretap.Rehearsal.Isolation
