import Wiretap.Message.RequestHead
import Wiretap.Message.Status

/-!
# Replies

The responses that the proxy writes.  A reply of its own is a line of text with its type and length.
A relayed response keeps its fields, except that its length is stated anew and the connection is
always closed behind it.
-/

namespace Wiretap.Message.Reply

set_option autoImplicit false

/-- The decimal digits of a number. -/
def decimal (n : Nat) : Bytes := Bytes.ascii (Nat.repr n)

/-- The line with the status. -/
def statusLine (s : Status) : Bytes :=
  Bytes.ascii "HTTP/1.1 " ++ decimal s.code ++ [Bytes.space] ++ Bytes.ascii s.phrase ++ Bytes.crlf

/-- The line of a field. -/
def fieldLine (name value : Bytes) : Bytes :=
  name ++ [Bytes.colon, Bytes.space] ++ value ++ Bytes.crlf

/-- A whole response with a text as its body. -/
def plainText (s : Status) (body : Bytes) : Bytes :=
  statusLine s
    ++ fieldLine (Bytes.ascii "Content-Type") (Bytes.ascii "text/plain")
    ++ fieldLine (Bytes.ascii "Content-Length") (decimal body.length)
    ++ Bytes.crlf ++ body

/-- Whether a field of a response is written as it is. -/
def isKept (name : Bytes) : Bool := name != Name.contentLength && name != Name.connection

/-- The head of a response with the given fields and a body of the given length. -/
def head (s : Status) (fields : Fields) (length : Nat) : Bytes :=
  statusLine s
    ++ ((fields.keep isKept).toList.flatMap fun (name, value) => fieldLine name value)
    ++ fieldLine (Bytes.ascii "Content-Length") (decimal length)
    ++ fieldLine (Bytes.ascii "Connection") (Bytes.ascii "close")
    ++ Bytes.crlf

/-- A whole response with a text as its body and fields of its own. -/
def framed (s : Status) (fields : Fields) (body : Bytes) : Bytes :=
  head s (fields.insert Name.contentType (Bytes.ascii "text/plain")) body.length ++ body

/-- What a client is told when its request could not be passed on. -/
def requestFailed : Bytes := Bytes.ascii "Upstream request failed\n"

/-- What a client is told when its upgrade could not be passed on. -/
def upgradeFailed : Bytes := Bytes.ascii "WebSocket connection failed\n"

/-- The head that opens a tunnel. -/
def tunnelOpen : Bytes := Bytes.ascii "HTTP/1.1 200 Connection Established\r\n\r\n"

end Wiretap.Message.Reply
