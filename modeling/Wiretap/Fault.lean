import Wiretap.Message.HeadReader
import Wiretap.Url.Host

/-!
# Faults of a connection

What can go wrong while one connection is served.  A fault ends the connection it arose on and no
other.  Each has a message, and a short kind under which it is counted.
-/

namespace Wiretap

set_option autoImplicit false

/-! ## Streams -/

/-- The kinds of failure of a stream or of a connection attempt. -/
inductive IoKind where
  | unexpectedEof
  | notConnected
  | brokenPipe
  | connectionRefused
  | connectionReset
  | networkUnreachable
  | invalidInput
  | writeZero
  | uncategorized
  | other
  deriving DecidableEq, Repr

/-- A failure of a stream or of a connection attempt. -/
structure IoFault where
  kind : IoKind
  message : String
  deriving DecidableEq, Repr

namespace IoFault

def brokenPipe : IoFault := ⟨.brokenPipe, "broken pipe"⟩
def connectionReset : IoFault := ⟨.connectionReset, "connection reset"⟩
def earlyEnd : IoFault := ⟨.unexpectedEof, "early eof"⟩
def nothingWritten : IoFault := ⟨.writeZero, "write zero byte into writer"⟩
def notAttached : IoFault := ⟨.notConnected, "connection stream is not attached"⟩
def alreadyClosed : IoFault := ⟨.notConnected, "connection already closed"⟩
def takeoverClosed : IoFault := ⟨.notConnected, "takeover writer is closed"⟩
def rawBytesSent : IoFault :=
  ⟨.other, "raw bytes already written; cannot send a framed response"⟩

end IoFault

/-! ## Upgrades -/

/-- What can go wrong while an upgraded connection is opened to another host. -/
inductive UpgradeFault where
  | target (e : Message.UriError)
  /-- A value computed for the request cannot be sent as a field. -/
  | fieldValue
  | noHost
  | emptyHost
  | unsupportedScheme
  | io (e : IoFault)
  /-- The host accepted and selected none of the offered subprotocols. -/
  | nothingSelected
  /-- The host's answer does not accept the upgrade. -/
  | refused (why : String)
  deriving DecidableEq, Repr

namespace UpgradeFault

def message : UpgradeFault → String
  | target e => "HTTP format error: " ++ e.message
  | fieldValue => "HTTP format error: failed to parse header value"
  | noHost => "URL error: No host name in the URL"
  | emptyHost => "URL error: URL contains empty host name"
  | unsupportedScheme => "URL error: URL scheme not supported"
  | io e => "IO error: " ++ e.message
  | nothingSelected =>
    "WebSocket protocol error: SubProtocol error: Server sent no subprotocol"
  | refused why => why

end UpgradeFault

/-! ## Deadlines -/

/-- What the proxy waits for under a deadline. -/
inductive Awaited where
  | firstByte
  | requestHead
  | requestBody
  | greeting
  | tunnelTarget
  | upgradeTarget
  | replyWritten
  | upgradeAnswered
  | other (activity : String)
  deriving DecidableEq, Repr

namespace Awaited

def activity : Awaited → String
  | firstByte => "waiting for the first byte"
  | requestHead => "reading request head"
  | requestBody => "reading request body"
  | greeting => "reading SOCKS5 greeting"
  | tunnelTarget => "dialing CONNECT target"
  | upgradeTarget => "dialing upstream WebSocket"
  | replyWritten => "writing response"
  | upgradeAnswered => "answering WebSocket upgrade"
  | other activity => activity

end Awaited

/-! ## Any fault -/

/-- Why a request head could not be used. -/
inductive BadRequest where
  | head (why : Message.MalformedHead)
  /-- The peer closed inside the head. -/
  | closedMidHead
  | other (why : String)
  deriving DecidableEq, Repr

namespace BadRequest

def message : BadRequest → String
  | head why => why.message
  | closedMidHead => "connection closed mid request head"
  | other why => why

end BadRequest

/-- Why another host could not be used. -/
inductive BadTarget where
  | location (url : Bytes) (why : Url.UrlError)
  | other (why : String)
  deriving DecidableEq, Repr

namespace BadTarget

def message : BadTarget → String
  | location url why =>
    s!"invalid upstream URL {Text.quote (Text.Utf8.toText url)}: {why.message}"
  | other why => why

end BadTarget

/-- What can go wrong while a connection is served. -/
inductive Fault where
  | io (e : IoFault)
  | badRequest (why : BadRequest)
  | headTooLong (limit : Nat)
  | timeout (awaited : Awaited)
  | badTarget (why : BadTarget)
  | upgrade (e : UpgradeFault)
  | unsupported (protocol : String)
  | crashed (protocol : String)
  deriving DecidableEq, Repr

namespace Fault

def message : Fault → String
  | io e => "I/O error: " ++ e.message
  | badRequest why => "malformed request: " ++ why.message
  | headTooLong limit => s!"request head exceeds {limit} bytes"
  | timeout awaited => "timed out while " ++ awaited.activity
  | badTarget why => "upstream error: " ++ why.message
  | upgrade e => "WebSocket error: " ++ e.message
  | unsupported protocol => "unsupported protocol: " ++ protocol
  | crashed protocol => s!"processor {protocol} panicked"

/-- The word under which a fault is counted. -/
def kind : Fault → String
  | io _ => "io"
  | badRequest _ => "malformed_request"
  | headTooLong _ => "head_too_large"
  | timeout _ => "timeout"
  | badTarget _ => "upstream"
  | upgrade _ => "websocket"
  | unsupported _ => "unsupported_protocol"
  | crashed _ => "panic"

end Fault

end Wiretap
