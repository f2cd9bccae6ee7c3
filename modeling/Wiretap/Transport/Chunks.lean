import Wiretap.Transport.Basic

/-!
# Streams in chunks

A source that is given in advance, as the chunks that arrive.  One attempt to read takes from one
chunk; what it leaves of the chunk is there for the next attempt.  An empty chunk reads as the end of
the stream once.
-/

namespace Wiretap.Transport

set_option autoImplicit false

/-- The chunks that are still to arrive. -/
structure Chunks where
  chunks : List Bytes
  deriving DecidableEq, Repr

namespace Chunks

/-- All bytes that are still to arrive. -/
def bytes (c : Chunks) : Bytes := c.chunks.flatten

def read (n : Nat) (c : Chunks) : Attempt Bytes × Chunks :=
  match c.chunks with
  | [] => (.done [], c)
  | chunk :: rest =>
    if chunk.length ≤ n then (.done chunk, ⟨rest⟩)
    else (.done (chunk.take n), ⟨chunk.drop n :: rest⟩)

instance : ByteSource Chunks where
  read := read
  ready c := c.bytes.length + c.chunks.length

end Chunks

end Wiretap.Transport
