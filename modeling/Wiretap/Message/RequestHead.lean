import Wiretap.Message.Fields
import Wiretap.Message.HeadSyntax
import Wiretap.Message.Uri
import Wiretap.Text.Quoted

/-!
# Request heads

A request head says which host the request is for.  A tunnel request names the host as its target.
Any other request names it in the authority of its target, or else in its host field.
-/

namespace Wiretap.Message

set_option autoImplicit false

/-- Why bytes are no request head. -/
inductive MalformedHead where
  /-- The bytes end inside the head. -/
  | incomplete
  | syntactic (f : HeadSyntax.Fault)
  | method (m : Bytes)
  | fieldName (n : Bytes)
  | fieldValue (n : Bytes)
  /-- No host can be read off the target or the fields. -/
  | missingHost
  deriving DecidableEq, Repr

namespace MalformedHead

def message : MalformedHead → String
  | incomplete => "incomplete request head"
  | syntactic f => f.message
  | method m => s!"invalid method {Text.quote m.toText}"
  | fieldName n => s!"invalid header {Text.quote n.toText}"
  | fieldValue n => s!"invalid value for {n.toText}"
  | missingHost => "missing Host header"

end MalformedHead

/-! ## Names of fields that the proxy itself looks at -/

namespace Name

def host : Bytes := Bytes.ascii "host"
def connection : Bytes := Bytes.ascii "connection"
def upgrade : Bytes := Bytes.ascii "upgrade"
def origin : Bytes := Bytes.ascii "origin"
def contentLength : Bytes := Bytes.ascii "content-length"
def contentType : Bytes := Bytes.ascii "content-type"
def transferEncoding : Bytes := Bytes.ascii "transfer-encoding"
def webSocketKey : Bytes := Bytes.ascii "sec-websocket-key"
def webSocketVersion : Bytes := Bytes.ascii "sec-websocket-version"
def webSocketExtensions : Bytes := Bytes.ascii "sec-websocket-extensions"
def webSocketProtocol : Bytes := Bytes.ascii "sec-websocket-protocol"

end Name

/-! ## Heads -/

/-- The method that asks for a tunnel. -/
def tunnelMethod : Bytes := Bytes.ascii "CONNECT"

/-- A request head and what it addresses. -/
structure RequestHead where
  method : Bytes
  /-- The target as written. -/
  target : Bytes
  /-- The host the request is for, with its port if it names one. -/
  host : Bytes
  /-- The path and query, empty for a tunnel. -/
  path : Bytes
  fields : Fields
  /-- The bytes the head was read from. -/
  raw : Bytes
  deriving DecidableEq, Repr

namespace RequestHead

/-- Whether the request asks for a tunnel. -/
def isTunnel (h : RequestHead) : Bool := h.method == tunnelMethod

/-- The first value of a field, if it can be read as text. -/
def text? (h : RequestHead) (name : Bytes) : Option Bytes := h.fields.text? name

/-- The host and path in a target that names its authority. -/
def ofTarget? (target : Bytes) : Option (Bytes × Bytes) :=
  if target.head? = some Bytes.slash then none
  else match Uri.parse target with
    | .ok uri =>
      if uri.authority.isEmpty then none else some (uri.authority, uri.pathAndQuery?.getD [])
    | .error _ => none

/-- The host and path that a request is for. -/
def resolve (method target : Bytes) (fields : Fields) : Except MalformedHead (Bytes × Bytes) :=
  if method = tunnelMethod then .ok (target, [])
  else match ofTarget? target with
    | some found => .ok found
    | none => match fields.text? Name.host with
      | some host => .ok (host, target)
      | none => .error .missingHost

/-- The fields of the lines, each line checked before it is added. -/
def collect (lines : List (Bytes × Bytes)) : Except MalformedHead Fields :=
  lines.foldlM (fun f line =>
    if !Fields.isName line.1 then .error (.fieldName line.1)
    else if !Fields.isValue line.2 then .error (.fieldValue line.1.fold)
    else .ok (f.append line.1 line.2)) Fields.empty

/-- Reads a head that the bytes begin with. -/
def parse (raw : Bytes) : Except MalformedHead RequestHead := do
  match HeadSyntax.head raw with
  | .error .short => .error .incomplete
  | .error (.fault f) => .error (.syntactic f)
  | .ok (parts, _) =>
    if parts.method.isEmpty || !parts.method.all Bytes.isToken then .error (.method parts.method)
    let fields ← collect parts.lines
    let (host, path) ← resolve parts.method parts.target fields
    return ⟨parts.method, parts.target, host, path, fields, raw⟩

end RequestHead

end Wiretap.Message
