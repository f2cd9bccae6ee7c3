import Wiretap.Transport.Basic

/-!
# Pipes

A pipe carries bytes one way through a buffer of fixed size.  When it is closed, what it holds can
still be read, then it ends; nothing more can be written to it.  Two pipes in opposite directions
make a two-way stream, seen here from one of its ends.
-/

namespace Wiretap.Transport

set_option autoImplicit false

/-- A one-way pipe. -/
structure Pipe where
  capacity : Nat
  held : Bytes := []
  closed : Bool := false
  deriving DecidableEq, Repr

namespace Pipe

/-- Writes what fits. -/
def write (data : Bytes) (p : Pipe) : Attempt Nat × Pipe :=
  if p.closed then (.failed IoFault.brokenPipe, p)
  else
    let room := p.capacity - p.held.length
    if room = 0 then (.blocked, p)
    else
      let piece := data.take room
      (.done piece.length, { p with held := p.held ++ piece })

/-- Reads what is there, up to `n` bytes. -/
def read (n : Nat) (p : Pipe) : Attempt Bytes × Pipe :=
  if p.held.isEmpty then (if p.closed then .done [] else .blocked, p)
  else (.done (p.held.take n), { p with held := p.held.drop n })

/-- Nothing more will be written, or nothing more will be read. -/
def close (p : Pipe) : Pipe := { p with closed := true }

end Pipe

/-- One end of a two-way stream. -/
structure Duplex where
  incoming : Pipe
  outgoing : Pipe
  deriving DecidableEq, Repr

namespace Duplex

/-- A fresh two-way stream that buffers up to `capacity` bytes each way. -/
def fresh (capacity : Nat) : Duplex := ⟨{ capacity }, { capacity }⟩

/-- The same stream seen from its other end. -/
def flip (d : Duplex) : Duplex := ⟨d.outgoing, d.incoming⟩

/-- Gives up this end: both directions are closed. -/
def drop (d : Duplex) : Duplex := ⟨d.incoming.close, d.outgoing.close⟩

instance : ByteSource Duplex where
  read n d := let (r, incoming) := d.incoming.read n; (r, { d with incoming })
  ready d := d.incoming.held.length

instance : ByteSink Duplex where
  write data d := let (r, outgoing) := d.outgoing.write data; (r, { d with outgoing })
  flush d := (.done (), d)
  shutdown d := (.done (), { d with outgoing := d.outgoing.close })

end Duplex

end Wiretap.Transport
