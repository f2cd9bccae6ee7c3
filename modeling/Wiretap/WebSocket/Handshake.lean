import Wiretap.Digest.Sha1
import Wiretap.Fault
import Wiretap.Url.Location

/-!
# Upgrade requests

A request for an upgrade is passed on as a request of the proxy's own.  The new request names the
same host and path, and carries the client's fields except those that belong to the handshake
itself, which are made anew: the key is fresh, no extension is offered, and the origin is the one
the client names, or else the host.  The subprotocols that the client offers are offered as they
are.

A client that asks for an upgrade sends a key, and knows that its request was understood when the
answer holds the digest of that key with a fixed text behind it, written in base 64: three bytes are
written as four characters of six bits each, and one or two bytes at the end as if zeros followed,
with an equals sign for each missing byte.
-/

namespace Wiretap.Text.Base64

set_option autoImplicit false

/-- The character for a number below 64. -/
def digit (n : Nat) : Char :=
  if n < 26 then Char.ofNat (0x41 + n)
  else if n < 52 then Char.ofNat (0x61 + (n - 26))
  else if n < 62 then Char.ofNat (0x30 + (n - 52))
  else if n = 62 then '+'
  else '/'

/-- The four characters of 24 bits. -/
def quad (n : Nat) : List Char :=
  [digit (n / 262144 % 64), digit (n / 4096 % 64), digit (n / 64 % 64), digit (n % 64)]

/-- The written form of a byte string. -/
def encode : Bytes → List Char
  | [] => []
  | [a] => (quad (a.toNat * 65536)).take 2 ++ ['=', '=']
  | [a, b] => (quad (a.toNat * 65536 + b.toNat * 256)).take 3 ++ ['=']
  | a :: b :: c :: rest => quad (a.toNat * 65536 + b.toNat * 256 + c.toNat) ++ encode rest

end Wiretap.Text.Base64

namespace Wiretap.WebSocket

set_option autoImplicit false

open Message (Fields RequestHead Uri)

/-- What is needed to ask another host for an upgrade. -/
structure Handshake where
  url : Bytes
  origin : Bytes
  /-- The subprotocols the client offers, as it wrote them. -/
  protocols : Option Bytes
  /-- The client's fields that are passed on. -/
  fields : Fields
  deriving DecidableEq, Repr

/-- A request for an upgrade, as it is sent. -/
structure UpgradeRequest where
  uri : Uri
  fields : Fields
  deriving DecidableEq, Repr

/-- Whether a head asks for an upgrade.  The two values are compared byte for byte. -/
def isUpgrade (h : RequestHead) : Bool :=
  h.fields.get? Message.Name.upgrade == some (Bytes.ascii "websocket")
    && h.fields.get? Message.Name.connection == some (Bytes.ascii "Upgrade")

/-- The fields that are not passed on. -/
def handshakeNames : List Bytes :=
  [Message.Name.host, Message.Name.connection, Message.Name.upgrade, Message.Name.webSocketKey,
    Message.Name.webSocketVersion, Message.Name.webSocketExtensions, Message.Name.origin,
    Message.Name.webSocketProtocol]

/-- The location of a host and path. -/
def location (tls : Bool) (host path : Bytes) : Bytes :=
  Bytes.ascii (if tls then "wss://" else "ws://") ++ host ++ path

/-- The origin that the client names, or else the host. -/
def originOf (tls : Bool) (fields : Fields) (host : Bytes) : Bytes :=
  (fields.text? Message.Name.origin).getD
    (Bytes.ascii (if tls then "https://" else "http://") ++ host)

/-- The fields that are passed on. -/
def passedOn (fields : Fields) : Fields := fields.keep fun name => !handshakeNames.contains name

/-- The subprotocols that are offered. -/
def offered (fields : Fields) : Option Bytes := fields.get? Message.Name.webSocketProtocol

namespace Handshake

/-- The handshake that passes on a client's request. -/
def ofHead (tls : Bool) (h : RequestHead) : Handshake :=
  { url := location tls h.host h.path
    origin := originOf tls h.fields h.host
    protocols := offered h.fields
    fields := passedOn h.fields }

/-- The same handshake without an offer of subprotocols. -/
def withoutOffer (h : Handshake) : Handshake := { h with protocols := none }

/-- The fields that every request for an upgrade has. -/
def basicFields (host key : Bytes) : Fields :=
  Fields.ofList [
    (Message.Name.host, host),
    (Message.Name.connection, Bytes.ascii "Upgrade"),
    (Message.Name.upgrade, Bytes.ascii "websocket"),
    (Message.Name.webSocketVersion, Bytes.ascii "13"),
    (Message.Name.webSocketKey, key)]

/-- The host that a request states: what stands behind the first at sign of the authority, or all of
it.  The host that is dialed stands behind the last one (`Uri.hostAndPort`). -/
def namedHost (authority : Bytes) : Bytes :=
  ((Bytes.cutAt? 0x40 authority).map (·.2)).getD authority

/-- The request, with a fresh key. -/
def request (key : Bytes) (h : Handshake) : Except UpgradeFault UpgradeRequest := do
  let uri ← (Uri.parse h.url).mapError .target
  if uri.authority.isEmpty then .error .noHost
  let host := namedHost uri.authority
  if host.isEmpty then .error .emptyHost
  let fields := (basicFields host key).appendAll h.fields
  if !Fields.isValue h.origin then .error .fieldValue
  let fields := fields.insert Message.Name.origin h.origin
  let fields := match h.protocols with
    | none => fields
    | some p => fields.insert Message.Name.webSocketProtocol p
  return ⟨uri, fields⟩

end Handshake

/-! ## The answer to a key -/

/-- The text that is put behind every key. -/
def keySuffix : Bytes := Bytes.ascii "258EAFA5-E914-47DA-95CA-C5AB0DC85B11"

/-- The answer to a key. -/
def acceptKey (key : Bytes) : String :=
  String.ofList (Text.Base64.encode (Digest.Sha1.digest (key ++ keySuffix)))

end Wiretap.WebSocket
