import Wiretap.Address.Ip

/-!
# Socket addresses

An internet address with a port.  Version 6 addresses stand in brackets, where a numeric scope may
follow them.
-/

namespace Wiretap.Address

set_option autoImplicit false

/-- An address that a socket can be bound or connected to. -/
structure Socket where
  ip : Ip
  /-- The scope of a version 6 address; zero is not written. -/
  scope : Nat := 0
  port : Nat
  deriving DecidableEq, Repr

namespace Socket

open Text (Reader)

/-- Reads the port behind a colon. -/
def portReader : Reader Nat := do
  Reader.char ':'
  Literal.number 65535

/-- A version 4 address with a port. -/
def v4Reader : Reader Socket := do
  let n ← Literal.v4
  let port ← portReader
  return { ip := .v4 (BitVec.ofNat 32 n), port }

/-- The scope behind a percent sign, and zero where there is none. -/
def scopeReader : Reader Nat := do
  match ← Reader.optional (Reader.char '%') with
  | none => return 0
  | some () => Literal.number 4294967295

/-- A version 6 address in brackets with a port. -/
def v6Reader : Reader Socket := do
  Reader.char '['
  let n ← Literal.v6
  let scope ← scopeReader
  Reader.char ']'
  let port ← portReader
  return { ip := .v6 (BitVec.ofNat 128 n), scope, port }

/-- Reads a socket address. -/
def ofChars? (cs : List Char) : Option Socket :=
  (Reader.all? v4Reader cs).or (Reader.all? v6Reader cs)

/-- Reads a socket address. -/
def ofText? (s : String) : Option Socket := ofChars? s.toList

/-- The written form. -/
def text (a : Socket) : String :=
  match a.ip with
  | .v4 _ => s!"{a.ip.text}:{a.port}"
  | .v6 _ =>
    if a.scope = 0 then s!"[{a.ip.text}]:{a.port}" else s!"[{a.ip.text}%{a.scope}]:{a.port}"

end Socket

end Wiretap.Address
