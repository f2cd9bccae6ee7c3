import Wiretap.Transport.Basic

/-!
# Copying from one stream to another

One direction of a tunnel reads from one stream and writes to another, in attempts of its own for
each.  What has been read is held until it is written.  When the stream that is read has ended and
nothing is held any more, the other one is flushed and ended too.
-/

namespace Wiretap.Transport

set_option autoImplicit false

/-- One direction of a tunnel. -/
structure Copy where
  /-- What has been read and not yet written. -/
  held : Bytes := []
  /-- How many bytes have been written. -/
  moved : Nat := 0
  /-- Whether the stream that is read has ended. -/
  ended : Bool := false
  /-- Whether the stream that is written has been ended too. -/
  shut : Bool := false
  deriving DecidableEq, Repr

namespace Copy

/-- One attempt to read at most `n` bytes more. -/
def pull {σ : Type} [ByteSource σ] (n : Nat) (c : Copy) (s : σ) : Attempt Copy × σ :=
  match ByteSource.read n s with
  | (.done [], s) => (.done { c with ended := true }, s)
  | (.done piece, s) => (.done { c with held := c.held ++ piece }, s)
  | (.failed e, s) => (.failed e, s)
  | (.blocked, s) => (.blocked, s)

/-- One attempt to end the stream that is written. -/
def shutDown {σ : Type} [ByteSink σ] (c : Copy) (s : σ) : Attempt Copy × σ :=
  match ByteSink.flush s with
  | (.done (), s) =>
    let (r, s) := ByteSink.shutdown s
    (r.map fun () => { c with shut := true }, s)
  | (r, s) => (r.map fun () => c, s)

/-- One attempt to write what is held, or to end the stream behind it. -/
def push {σ : Type} [ByteSink σ] (c : Copy) (s : σ) : Attempt Copy × σ :=
  if c.held.isEmpty then
    if c.ended && !c.shut then c.shutDown s else (.blocked, s)
  else match ByteSink.write c.held s with
    | (.done 0, s) => (.failed IoFault.nothingWritten, s)
    | (.done n, s) => (.done { c with held := c.held.drop n, moved := c.moved + n }, s)
    | (.failed e, s) => (.failed e, s)
    | (.blocked, s) => (.blocked, s)

end Copy

end Wiretap.Transport
